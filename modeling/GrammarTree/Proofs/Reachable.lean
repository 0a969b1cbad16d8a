import GrammarTree.Choice.Ambiguity
import GrammarTree.Symbol.TokenClass
import GrammarTree.Proofs.Joining
import GrammarTree.Proofs.Ledger
import GrammarTree.Proofs.Upkeep

/-!
# Reachable choices

A choice is built step by step: operands are joined, placed in front or behind,
turned into loops, copied and analysed.  Whatever the order of these steps, the
ledger and the marks of the choice fit its arms.

The invariant that carries the proof is that the ledger is that of a join tree of
the arms (`Choice.Sound`); what a reader of the ledger relies on follows from it.

Main results:

- Definition `Choice.Reachable`: the choices that the operations can build.
- Theorem `Choice.Sound.insert`: placing a batch keeps the invariant.
- Theorem `Choice.Reachable.fits_its_arms`: ledger and marks of a reachable choice
  fit its arms.
-/

namespace GrammarTree

/-! ## The invariant -/

/-- A batch with a tree behind it, whose default is one of its arms. -/
structure Batch.Sound {α : Type} (batch : Batch α) : Prop where
  joined : ∃ t, Records batch.arms batch.seams t
  default_lt : ∀ i, batch.defaultArm = some i → i < batch.arms.length

/-- A choice with a tree behind it, whose default is one of its arms; leaving can
only be the default of a loop. -/
structure Choice.Sound {α : Type} (c : Choice α) : Prop where
  joined : ∃ t, Records c.arms c.seams t
  default_lt : ∀ i, c.defaultArm = some (.arm i) → i < c.arms.length
  exit_isLoop : c.defaultArm = some .exit → c.isLoop = true

namespace Batch

variable {α : Type}

/-- An operand that is kept whole is a sound batch. -/
theorem sound_ofArm (operand : α) (role : ArmRole) : (ofArm operand role).Sound := by
  cases role with
  | ordinary =>
    exact ⟨⟨_, Records.singleton operand⟩, by simp [ofArm]⟩
  | default =>
    exact ⟨⟨_, Records.singleton operand⟩, by simp [ofArm]⟩
  | recovery exits =>
    exact ⟨⟨_, Records.nil⟩, by simp [ofArm]⟩

/-- A sound choice brings a sound batch. -/
theorem sound_ofChoice {c : Choice α} (h : c.Sound) : (ofChoice c).Sound := by
  refine ⟨h.joined, ?_⟩
  intro i hi
  simp only [ofChoice] at hi
  split at hi
  · rename_i index hindex
    split at hi
    · cases hi
      assumption
    · cases hi
  · cases hi

end Batch

namespace Choice

variable {α β : Type}

namespace Sound

variable {c : Choice α} {batch : Batch α}

/-- A choice without arms is sound. -/
theorem empty (repetition : Repetition) (greedy : Option Bool) :
    ({ repetition, greedy } : Choice α).Sound :=
  ⟨⟨none, Records.nil⟩, by simp, by simp⟩

/-- A choice with one arm and no mark is sound. -/
theorem single (repetition : Repetition) (greedy : Option Bool) (arm : α) :
    ({ repetition, greedy, arms := [arm] } : Choice α).Sound :=
  ⟨⟨_, Records.singleton arm⟩, by simp, by simp⟩

/-- What is joined alike with the same default is sound, too; it may be tried more
often. -/
theorem of_map (h : c.Sound) {d : Choice β} (f : α → β) (harms : d.arms = c.arms.map f)
    (hseams : d.seams = c.seams) (hdefault : d.defaultArm = c.defaultArm)
    (hloop : c.isLoop = true → d.isLoop = true) : d.Sound := by
  rcases h with ⟨⟨t, ht⟩, hlt, hexit⟩
  refine ⟨⟨t.map (·.map f), ?_, ?_⟩, ?_, ?_⟩
  · rw [harms, ht.arms_eq]
    cases t <;> simp [JoinTree.leavesOf]
  · rw [hseams, ht.seams_eq]
    cases t with
    | none => rfl
    | some t => exact (JoinTree.ledger_map f t).symm
  · intro i hi
    rw [harms, List.length_map]
    exact hlt i (hdefault ▸ hi)
  · intro hi
    exact hloop (hexit (hdefault ▸ hi))

/-- Placing a sound batch at a sound choice gives a sound choice. -/
theorem insert (hc : c.Sound) (hb : batch.Sound) (side : Side) (ordered : Bool) :
    (c.insert side ordered batch).Sound := by
  rcases hc with ⟨⟨t, ht⟩, hlt, hexit⟩
  rcases hb with ⟨⟨u, hu⟩, hblt⟩
  refine ⟨?_, ?_, ?_⟩
  · cases side with
    | front => exact ⟨_, ht.insert_front hu none ordered⟩
    | back => exact ⟨_, ht.insert_back hu none ordered⟩
  · intro i hi
    rw [length_arms_insert]
    rcases insert_defaultArm_cases hi with ⟨d, hd, heq⟩ | ⟨-, k, hk, heq⟩
    · cases d with
      | arm index =>
        have := hlt index hd
        cases heq
        split <;> omega
      | exit => cases heq
    · have := hblt k hk
      cases heq
      split <;> omega
  · intro hi
    rw [isLoop, insert_repetition]
    rcases insert_defaultArm_cases hi with ⟨d, hd, heq⟩ | ⟨-, k, hk, heq⟩
    · cases d with
      | arm index => cases heq
      | exit => exact hexit hd
    · cases heq

/-- Making leaving the default keeps a choice sound. -/
theorem setDefaultExit (h : c.Sound) (location : Location) :
    (c.setDefaultExit location).2.1.Sound := by
  unfold Choice.setDefaultExit
  split
  · exact h
  · split
    · exact h
    · rename_i hloop _
      have hloop : c.isLoop = true := by simpa using hloop
      exact ⟨h.joined, by simp, fun _ => hloop⟩

/-- Reporting an ambiguity keeps a choice sound. -/
theorem report (h : c.Sound) (arms : List Int) (mask : Nat) (suppressExit : Bool) :
    (c.report arms mask suppressExit).2.Sound := by
  unfold Choice.report
  dsimp only
  split
  · exact h
  · exact h.of_map id (by simp) rfl rfl id

end Sound

/-! ## Building choices -/

variable {S Item : Type} [SymbolSet S Item]

/-- The choices that the operations can build.  An operand is any expression; if it
is a choice itself, that choice was built before. -/
inductive Reachable : Choice (Expr S) → Prop where
  | new (repetition : Repetition) (greedy : Option Bool) : Reachable { repetition, greedy }
  | loop {location : Location} {repetition : Repetition} {greedy : Option Bool}
      {body : Expr S} {n : Notes} {c : Choice (Expr S)}
      (hbody : ∀ inner, body.choice? = some inner → Reachable inner)
      (h : Expr.loop location repetition greedy body = .ok (.node n (.choice c))) :
      Reachable c
  | join {location : Location} {ordered : Bool} {left right : Expr S}
      {leftRole rightRole : ArmRole} {n : Notes} {c : Choice (Expr S)}
      (hleft : ∀ inner, left.choice? = some inner → Reachable inner)
      (hright : ∀ inner, right.choice? = some inner → Reachable inner)
      (h : (Expr.alternate location ordered left leftRole right rightRole).1 =
        .node n (.choice c)) :
      Reachable c
  | insert {c : Choice (Expr S)} {operand : Expr S} (side : Side) (ordered : Bool)
      (role : ArmRole) (hc : Reachable c)
      (hoperand : ∀ inner, operand.choice? = some inner → Reachable inner) :
      Reachable (c.insert side ordered (operand.batch role))
  | defaultExit {c : Choice (Expr S)} (location : Location) (hc : Reachable c) :
      Reachable (c.setDefaultExit location).2.1
  | greedy {c : Choice (Expr S)} (greedy : Option Bool) (hc : Reachable c) :
      Reachable { c with greedy }
  | report {c : Choice (Expr S)} (arms : List Int) (mask : Nat) (suppressExit : Bool)
      (hc : Reachable c) : Reachable (c.report arms mask suppressExit).2
  | copy {c c' : Choice (Expr S)} {n n' : Notes} (hc : Reachable c)
      (h : (Expr.node n (.choice c)).copy = .node n' (.choice c')) : Reachable c'
  | discard {c c' : Choice (Expr S)} {n n' : Notes} (hc : Reachable c)
      (h : (Expr.node n (.choice c)).discard = .node n' (.choice c')) : Reachable c'

/-- A host is the choice at the root of an operand. -/
theorem choice?_of_host? {operand : Expr S} {role : ArmRole} {host : Choice (Expr S)}
    (h : operand.host? role = some host) : operand.choice? = some host :=
  (Expr.plainChoice?_eq_some_iff.mp (Expr.host?_eq_some_iff.mp h).2).1

/-- What an operand brings is sound if the operand is sound or no choice at all. -/
theorem sound_batch {operand : Expr S} (role : ArmRole)
    (h : ∀ inner, operand.choice? = some inner → inner.Sound) :
    (operand.batch role).Sound := by
  cases hhost : operand.host? role with
  | none =>
    rw [Expr.batch_of_host?_eq_none hhost]
    exact Batch.sound_ofArm operand role
  | some host =>
    rw [Expr.batch_of_host? hhost]
    exact Batch.sound_ofChoice (h host (choice?_of_host? hhost))

/-- A loop around a sound body is sound. -/
theorem sound_loopChoice {body : Expr S} (repetition : Repetition) (greedy : Option Bool)
    (h : ∀ inner, body.choice? = some inner → inner.Sound) :
    (Expr.loopChoice repetition greedy body).Sound := by
  unfold Expr.loopChoice
  split
  · rename_i c hplain
    rcases Expr.plainChoice?_eq_some_iff.mp hplain with ⟨hchoice, -, honce⟩
    refine (h c hchoice).of_map id (by simp) rfl rfl ?_
    intro hloop
    rw [(isLoop_eq_false_iff c).mpr honce] at hloop
    cases hloop
  · exact Sound.single repetition greedy body

/-- A join of sound operands is sound. -/
theorem sound_alternate {left right : Expr S} {leftRole rightRole : ArmRole}
    {location : Location} {ordered : Bool} {n : Notes} {c : Choice (Expr S)}
    (hleft : ∀ inner, left.choice? = some inner → inner.Sound)
    (hright : ∀ inner, right.choice? = some inner → inner.Sound)
    (h : (Expr.alternate location ordered left leftRole right rightRole).1 =
      .node n (.choice c)) :
    c.Sound := by
  obtain ⟨host, side, batch, heq, hcases⟩ :=
    Expr.alternate_cases location ordered left leftRole right rightRole
  rw [heq] at h
  cases h
  rcases hcases with ⟨hhost, rfl, rfl⟩ | ⟨-, hhost, rfl, rfl⟩ | ⟨-, -, rfl, rfl, rfl⟩
  · exact (hleft host (choice?_of_host? hhost)).insert (sound_batch rightRole hright) _ _
  · exact (hright host (choice?_of_host? hhost)).insert (sound_batch leftRole hleft) _ _
  · exact ((Sound.empty .once none).insert (sound_batch leftRole hleft) _ _).insert
      (sound_batch rightRole hright) _ _

/-- Every reachable choice is sound. -/
theorem Reachable.sound {c : Choice (Expr S)} (h : Reachable c) : c.Sound := by
  induction h with
  | new repetition greedy => exact Sound.empty repetition greedy
  | loop hbody h ih =>
    rcases Expr.loop_eq_ok_iff.mp h with ⟨-, he⟩
    cases he
    exact sound_loopChoice _ _ ih
  | join hleft hright h ihl ihr => exact sound_alternate ihl ihr h
  | insert side ordered role hc hoperand ihc iho => exact ihc.insert (sound_batch role iho) _ _
  | defaultExit location hc ih => exact ih.setDefaultExit location
  | greedy greedy hc ih => exact ih.of_map id (by simp) rfl rfl id
  | report arms mask suppressExit hc ih => exact ih.report arms mask suppressExit
  | copy hc h ih =>
    rw [Expr.copy_choice] at h
    cases h
    exact ih.of_map Expr.copy rfl rfl rfl id
  | discard hc h ih =>
    rw [Expr.discard_choice] at h
    cases h
    exact ih.of_map Expr.discard rfl rfl rfl id

/-! ## What readers of a choice rely on -/

/-- Ledger and marks of a choice fit its arms. -/
structure Consistent {α : Type} (c : Choice α) : Prop where
  /-- The positions of a seam stand in order within the arms. -/
  bounds : ∀ s ∈ c.seams,
    0 ≤ s.left ∧ s.left ≤ s.mid ∧ s.mid ≤ s.right ∧ s.right ≤ c.arms.length
  /-- There is one seam less than there are arms. -/
  count : c.seams.length = c.arms.length - 1
  /-- While all positions can be stored, both sides of a seam have arms. -/
  sides : c.arms.length ≤ 32767 → ∀ s ∈ c.seams, s.left < s.mid ∧ s.mid < s.right
  /-- While all positions can be stored, the runs of seams are nested or disjoint. -/
  laminar : c.arms.length ≤ 32767 → c.seams.Pairwise Seam.Laminar
  /-- While all positions can be stored, exactly one seam stands in front of each arm
  but the first. -/
  mids : c.arms.length ≤ 32767 → ∀ m : Nat, 1 ≤ m → m < c.arms.length →
    c.seams.countP (fun s => s.mid = (m : Int)) = 1
  /-- The default is an arm, or leaving a loop. -/
  default : c.defaultArm = none ∨ (∃ i, c.defaultArm = some (.arm i) ∧ i < c.arms.length) ∨
    (c.defaultArm = some .exit ∧ (c.repetition = .optional ∨ c.repetition = .star))
  /-- A loop is left on errors only by an error branch: the two are set together, as
  one `Recovery`. -/
  recovery : c.exitsOnError = true → c.recovery.isSome = true

/-- A sound choice is consistent. -/
theorem Sound.consistent {α : Type} {c : Choice α} (h : c.Sound) : c.Consistent := by
  rcases h with ⟨⟨t, harms, hseams⟩, hlt, hexit⟩
  have hdefault : c.defaultArm = none ∨
      (∃ i, c.defaultArm = some (.arm i) ∧ i < c.arms.length) ∨
      (c.defaultArm = some .exit ∧ (c.repetition = .optional ∨ c.repetition = .star)) := by
    cases hd : c.defaultArm with
    | none => exact Or.inl rfl
    | some d =>
      cases d with
      | arm index => exact Or.inr (Or.inl ⟨index, rfl, hlt index hd⟩)
      | exit => exact Or.inr (Or.inr ⟨rfl, c.isLoop_eq_true_iff.mp (hexit hd)⟩)
  have hrecovery : c.exitsOnError = true → c.recovery.isSome = true := by
    intro hexits
    unfold exitsOnError at hexits
    split at hexits
    · rename_i branch hbranch
      rw [hbranch]
      rfl
    · cases hexits
  cases t with
  | none =>
    have harms : c.arms = [] := harms
    have hseams : c.seams = [] := hseams
    refine ⟨?_, ?_, ?_, ?_, ?_, hdefault, hrecovery⟩ <;> simp [harms, hseams]
  | some t =>
    have hsize : c.arms.length = t.size := congrArg List.length harms
    have hseams : c.seams = t.ledger := hseams
    have hcount := t.length_ledger
    refine ⟨?_, ?_, ?_, ?_, ?_, hdefault, hrecovery⟩
    · intro s hs
      rw [hsize]
      exact JoinTree.bounds_of_mem_ledger (hseams ▸ hs)
    · rw [hseams, hsize]
      omega
    · intro hfits s hs
      rw [hseams, JoinTree.ledger_eq_seamsFrom (by omega)] at hs
      have hbounds := JoinTree.bounds_of_mem_seamsFrom hs
      exact ⟨hbounds.2.1, hbounds.2.2.1⟩
    · intro hfits
      rw [hseams, JoinTree.ledger_eq_seamsFrom (by omega)]
      exact t.pairwise_laminar 0
    · intro hfits m hpos hm
      rw [hseams, JoinTree.ledger_eq_seamsFrom (by omega)]
      exact t.countP_mid_eq_one (by omega) (by omega)

/-- Ledger and marks of every choice that the operations can build fit its arms,
however many arms it has. -/
theorem Reachable.fits_its_arms {c : Choice (Expr S)} (h : Reachable c) : c.Consistent :=
  h.sound.consistent

/-- A star whose default arm stands between an arm placed in front with `/` and an
arm placed behind with `|`. -/
theorem Reachable.fits_its_arms_star :
    let call (k : Nat) : Expr TokenClass := .ofKind none (.call ⟨⟨k⟩, "r", []⟩)
    let first := ({ repetition := .star } : Choice (Expr TokenClass)).insert .back false
      ((call 0).batch .default)
    let c := (first.insert .front true ((call 1).batch .ordinary)).insert .back false
      ((call 2).batch .ordinary)
    Reachable c ∧ c.Consistent ∧ c.defaultArm = some (.arm 1) ∧ c.seams.length = 2 := by
  intro call first c
  have hcall (k : Nat) : ∀ inner, (call k).choice? = some inner → Reachable inner := by
    intro inner h
    cases h
  have hfirst : Reachable first := .insert .back false .default (.new .star none) (hcall 0)
  have hfront := hfirst.insert .front true .ordinary (hcall 1)
  have hc : Reachable c := hfront.insert .back false .ordinary (hcall 2)
  exact ⟨hc, hc.fits_its_arms, rfl, rfl⟩

end Choice

end GrammarTree
