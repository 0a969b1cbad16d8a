import GrammarTree.Proofs.CanonicalForm

/-!
# Laws of sequences

Putting expressions one after the other is associative, and the empty sequence is its
unit.  These are equations between trees, although operands of a sequence are not kept as
they are: an inner sequence brings its items and moves its code to them, one that matches
nothing is left away, and a single item stands for itself.

What an expression does in order is written down as its script.  Fragments of code that
were joined stand in it like fragments one behind the other, so the script of a sequence
is made of the scripts of its parts, and no code gets lost, doubled or moved.

Main results:

- Theorem `Expr.items_sequence`: a sequence brings the items of its parts.
- Theorem `Expr.sequence_dissolve`: an inner sequence can stand for its parts.
- Definition `Expr.script`: user code and other parts of an expression in order.
- Theorem `Expr.script_sequence`: the script of a sequence.
- Theorem `Expr.sequences_form_monoid`: associativity, unit and scripts.
-/

namespace GrammarTree

variable {S : Type}

namespace Expr

variable {e : Expr S}

/-! ## Items of sequences -/

/-- An item brings itself into a sequence. -/
theorem IsItem.items_eq (h : e.IsItem) : e.items = [e] := by
  rcases e.items_cases with ⟨hitems, -⟩ | ⟨parts, hparts, hitems⟩
  · exact hitems
  · rcases e with ⟨n, k⟩
    cases k with
    | sequence items =>
      rw [Expr.items]
      rcases h items rfl with hsaver | ⟨rfl, hcode⟩
      · exact if_pos hsaver
      · have hcode : n.hasCode = true := hcode
        rw [List.isEmpty_nil, if_pos rfl, if_pos hcode, ite_self]
    | _ => cases hparts

/-- No code in front changes nothing. -/
theorem runBefore_none (e : Expr S) : e.runBefore none = e := by
  rcases e with ⟨n, k⟩
  rfl

/-- No code behind changes nothing. -/
theorem runAfter_none (e : Expr S) : e.runAfter none = e := by
  rcases e with ⟨⟨location, before, after, saver, finding⟩, k⟩
  cases after <;> rfl

/-- A node around a list, without any code, brings the list into a sequence. -/
theorem items_ofKind_sequence (location : Location) (l : List (Expr S)) :
    (ofKind location (.sequence l)).items = l := by
  have hfirst (l : List (Expr S)) : mapFirst (runBefore none) l = l := by
    cases l with
    | nil => rfl
    | cons first rest => rw [mapFirst, runBefore_none]
  have hlast (l : List (Expr S)) : mapLast (runAfter none) l = l := by
    fun_induction mapLast (runAfter none) l with
    | case1 => rfl
    | case2 last => rw [runAfter_none]
    | case3 first second rest ih => rw [ih]
  cases l with
  | nil => rfl
  | cons first rest =>
    change mapLast (runAfter none) (mapFirst (runBefore none) (first :: rest)) = _
    rw [hfirst, hlast]

/-- A sequence of flat parts brings their items into another sequence, also if it has
become one of these items. -/
theorem items_sequence (location : Location) {parts : List (Expr S)}
    (h : ∀ part ∈ parts, part.Flat) : (sequence location parts).items = parts.flatMap items := by
  unfold sequence
  split
  · rename_i only honly
    have hitem : only.IsItem := by
      have hmem : only ∈ parts.flatMap items := by simp [honly]
      obtain ⟨part, hpart, hpartItem⟩ := List.mem_flatMap.mp hmem
      exact isItem_of_mem_items (h part hpart) only hpartItem
    rw [honly, hitem.items_eq]
  · exact items_ofKind_sequence location _

/-! ## Associativity and unit -/

/-- Only the items of all parts count for a sequence. -/
theorem sequence_congr (location : Location) {parts others : List (Expr S)}
    (h : parts.flatMap items = others.flatMap items) :
    sequence location parts = sequence location others := by
  unfold sequence
  rw [h]

/-- A sequence among the parts of another one can stand for its own parts. -/
theorem sequence_dissolve (location inner : Location) (front back : List (Expr S))
    {parts : List (Expr S)} (h : ∀ part ∈ parts, part.Flat) :
    sequence location (front ++ sequence inner parts :: back) =
      sequence location (front ++ parts ++ back) := by
  apply sequence_congr
  rw [List.flatMap_append, List.flatMap_cons, items_sequence inner h, List.flatMap_append,
    List.flatMap_append, List.append_assoc]

/-- An empty sequence without user code brings nothing. -/
theorem items_of_empty (hempty : e.sequence? = some []) (hbare : e.notes.hasActions = false) :
    e.items = [] := by
  obtain ⟨hbefore, hafter, hsaver⟩ := e.notes.hasActions_eq_false_iff.mp hbare
  rcases e.items_cases with ⟨-, hnone | hsome | ⟨-, hcode⟩⟩ | ⟨parts, hparts, hitems⟩
  · rw [hempty] at hnone
    cases hnone
  · rw [hsaver] at hsome
    cases hsome
  · rw [Notes.hasCode, hbefore, hafter] at hcode
    cases hcode
  · rw [hempty] at hparts
    cases hparts
    rw [hitems]
    rfl

end Expr

/-! ## Scripts -/

/-- An entry of a script: a letter of user code, or a part that is no sequence. -/
inductive ScriptEntry (S : Type) where
  | letter (c : Char)
  | part (e : Expr S)

/-- The script of a fragment of user code.  A blank stands in front of each fragment, so
joined fragments read like fragments one behind the other. -/
def Action.script : Action → List (ScriptEntry S)
  | none => []
  | some text => (' ' :: text.toList).map .letter

/-- Joined fragments read like fragments one behind the other. -/
theorem Action.script_join (a b : Action) :
    ((a.join b).script : List (ScriptEntry S)) = a.script ++ b.script := by
  cases a with
  | none => rfl
  | some a =>
    cases b with
    | none => exact (List.append_nil _).symm
    | some b => simp [join, script]

namespace Expr

/-- The script of a construct whose parts come with their scripts, at a node with the notes
`bare` beside its code.  A sequence does what its items do, unless a saver wraps it;
everything else is one entry. -/
def constructScript (bare : Notes) :
    Kind S (Expr S × List (ScriptEntry S)) → List (ScriptEntry S)
  | .sequence items =>
    if bare.saver.isSome then [.part (node bare (.sequence (items.map Prod.fst)))]
    else items.flatMap Prod.snd
  | k => [.part (node bare (k.map Prod.fst))]

/-- User code and other parts of an expression in order. -/
def script : Expr S → List (ScriptEntry S) :=
  para fun n k =>
    n.before.script ++ constructScript { n with before := none, after := none } k ++
      n.after.script

/-- The code of a node stands around the script of its construct. -/
theorem script_node (n : Notes) (k : Kind S (Expr S)) :
    (node n k).script =
      n.before.script ++
        constructScript { n with before := none, after := none }
          (k.map fun part => (part, part.script)) ++
        n.after.script :=
  para_node _ n k

/-- Code in front of all code of an expression stands first. -/
theorem script_runBefore (code : Action) (e : Expr S) :
    (e.runBefore code).script = code.script ++ e.script := by
  rcases e with ⟨n, k⟩
  rw [runBefore, mapNotes, script_node, script_node, Action.script_join]
  simp only [List.append_assoc]

/-- Code behind all code of an expression stands last. -/
theorem script_runAfter (code : Action) (e : Expr S) :
    (e.runAfter code).script = e.script ++ code.script := by
  rcases e with ⟨n, k⟩
  rw [runAfter, mapNotes, script_node, script_node, Action.script_join]
  simp only [List.append_assoc]

/-- Code that moves to the first item stands before all items. -/
theorem flatMap_script_mapFirst (code : Action) {parts : List (Expr S)} (h : parts ≠ []) :
    (mapFirst (runBefore code) parts).flatMap script = code.script ++ parts.flatMap script := by
  cases parts with
  | nil => cases h rfl
  | cons first rest =>
    rw [mapFirst, List.flatMap_cons, List.flatMap_cons, script_runBefore, List.append_assoc]

/-- Code that moves to the last item stands behind all items. -/
theorem flatMap_script_mapLast (code : Action) {parts : List (Expr S)} (h : parts ≠ []) :
    (mapLast (runAfter code) parts).flatMap script = parts.flatMap script ++ code.script := by
  fun_induction mapLast (runAfter code) parts with
  | case1 => cases h rfl
  | case2 last =>
    rw [List.flatMap_singleton, List.flatMap_singleton, script_runAfter]
  | case3 first second rest ih =>
    rw [List.flatMap_cons, ih (List.cons_ne_nil _ _), ← List.append_assoc, ← List.flatMap_cons]

/-- The items that an expression brings into a sequence have its script. -/
theorem flatMap_script_items (e : Expr S) : e.items.flatMap script = e.script := by
  rcases e with ⟨n, k⟩
  cases k with
  | sequence parts =>
    by_cases hsaver : n.saver.isSome = true
    · rw [items, if_pos hsaver, List.flatMap_singleton]
    · have hscript : (node n (.sequence parts)).script =
          n.before.script ++ parts.flatMap script ++ n.after.script := by
        rw [script_node, Kind.map, constructScript, if_neg hsaver, List.flatMap_map]
      rw [items, if_neg hsaver]
      by_cases hempty : parts = []
      · subst hempty
        by_cases hcode : n.hasCode = true
        · rw [if_pos List.isEmpty_nil, if_pos hcode, List.flatMap_singleton]
        · simp only [Notes.hasCode, Bool.or_eq_true, not_or, Bool.not_eq_true,
            Option.isSome_eq_false_iff, Option.isNone_iff_eq_none] at hcode
          simp [hscript, Notes.hasCode, hcode, Action.script]
      · have hfirst : mapFirst (runBefore n.before) parts ≠ [] := by
          cases parts with
          | nil => cases hempty rfl
          | cons first rest => exact List.cons_ne_nil _ _
        rw [if_neg (by simpa using hempty), flatMap_script_mapLast _ hfirst,
          flatMap_script_mapFirst _ hempty, hscript]
  | _ =>
    rw [items, List.flatMap_singleton]
    intro m parts h
    cases h

/-- The script of a sequence is made of the scripts of its parts. -/
theorem script_sequence (location : Location) (parts : List (Expr S)) :
    (sequence location parts).script = parts.flatMap script := by
  have hflat : (parts.flatMap items).flatMap script = parts.flatMap script := by
    rw [List.flatMap_assoc]
    simp only [flatMap_script_items]
  have hnode (flat : List (Expr S)) :
      (ofKind location (.sequence flat)).script = flat.flatMap script := by
    rw [← flatMap_script_items, items_ofKind_sequence]
  unfold sequence
  split
  · rename_i only honly
    rw [← hflat, honly, List.flatMap_singleton]
  · rw [hnode, hflat]

/-- Sequences of flat expressions are associative: both ways of putting three of them one
after the other give the sequence of the three, wherever the inner sequence stands.  An
empty sequence without user code adds nothing on either side.  These are equal trees with
equal notes, and their scripts are the scripts of the operands in order: no code is lost,
doubled or moved. -/
theorem sequences_form_monoid {a b c : Expr S} (ha : a.Flat) (hb : b.Flat) (hc : c.Flat)
    (location left right : Location) :
    sequence location [sequence left [a, b], c] = sequence location [a, sequence right [b, c]] ∧
    sequence location [sequence left [a, b], c] = sequence location [a, b, c] ∧
    (∀ e : Expr S, e.sequence? = some [] → e.notes.hasActions = false →
      sequence location [e, a] = sequence location [a, e] ∧
      sequence location [e, a] = sequence location [a]) ∧
    (sequence location [a, b, c]).script = a.script ++ b.script ++ c.script ∧
    (sequence location [a]).script = a.script := by
  have hleft : sequence location [sequence left [a, b], c] = sequence location [a, b, c] :=
    sequence_dissolve location left [] [c] (by simp [ha, hb])
  have hright : sequence location [a, sequence right [b, c]] = sequence location [a, b, c] :=
    sequence_dissolve location right [a] [] (by simp [hb, hc])
  refine ⟨hleft.trans hright.symm, hleft, ?_, ?_, ?_⟩
  · intro e hempty hbare
    have hitems : e.items = [] := items_of_empty hempty hbare
    have hfront : sequence location [e, a] = sequence location [a] :=
      sequence_congr location (by simp [hitems])
    have hback : sequence location [a, e] = sequence location [a] :=
      sequence_congr location (by simp [hitems])
    exact ⟨hfront.trans hback.symm, hfront⟩
  · rw [script_sequence]
    simp
  · rw [script_sequence]
    simp

/-- An empty sequence that is kept for its code, a sequence that gives its code up to its
items, and one that is kept for its saver: four items in whatever order they are joined. -/
theorem sequences_form_monoid_kept_and_dissolved :
    let letter (c : Char) : Expr CharClass := terminal none (CharClass.ofItems [c])
    let a := (epsilon none).withBefore "open"
    let b := ((sequence none [letter 'x', letter 'y']).withBefore "start").withAfter "end"
    let c := (sequence none [letter 'u', letter 'v']).withSaver ⟨0, id⟩
    sequence none [sequence none [a, b], c] = sequence none [a, sequence none [b, c]] ∧
      (sequence none [a, sequence none [b, c]]).sequence?.map List.length = some 4 ∧
      (sequence none [a, b, c]).script = a.script ++ b.script ++ c.script := by
  intro letter a b c
  have hletter (x : Char) : (letter x).IsItem := by
    intro parts hparts
    cases hparts
  have hpair (x y : Char) : ∀ item ∈ [letter x, letter y], item.IsItem := by
    simp [hletter]
  have ha : a.Flat := by
    intro parts hparts
    cases hparts
    simp
  have hb : b.Flat := by
    intro parts hparts
    cases hparts
    exact hpair 'x' 'y'
  have hc : c.Flat := by
    intro parts hparts
    cases hparts
    exact hpair 'u' 'v'
  have hlaws := sequences_form_monoid ha hb hc none none none
  exact ⟨hlaws.1, rfl, hlaws.2.2.2.1⟩

end Expr

end GrammarTree
