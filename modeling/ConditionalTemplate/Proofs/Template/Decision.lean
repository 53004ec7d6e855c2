import ConditionalTemplate.Template.Resolution

/-!
# The decisions of a pass

A pass decides the blocks of its text one after the other. Where all of them can be decided, it
keeps a body of each and reports every decision (`resolve_of_decided`); else it fails as the first
block does that cannot be decided, with the decisions before reported (`resolve_of_undecided`). A
pass over condition blocks comes to its end exactly if every condition can be read
(`resolveConditions_of_readable`, `resolveConditions_of_firstFault`), a pass over presence blocks
always does (`resolvePresences_eq`). What is decided of a block is `ConditionBlock.holds` and
`PresenceBlock.Holds`.

A pass depends on the decisions only (`resolve_congr`), and what it gives is text of its segments
(`sublist_of_outcome_resolve`).
-/

namespace ConditionalTemplate

namespace Template

variable {β : Type}

/-- The blocks among segments, in the order of the text. -/
def blocksOf : Segments β → List β
  | [] => []
  | .literal _ :: rest => blocksOf rest
  | .block b :: rest => b :: blocksOf rest

def conditionBlocks (s : List Char) : List ConditionBlock :=
  blocksOf (scan s)

def presenceBlocks (s : List Char) : List PresenceBlock :=
  blocksOf (scan s)

theorem mem_blocksOf {segments : Segments β} {b : β} (h : .block b ∈ segments) :
    b ∈ blocksOf segments := by
  induction segments with
  | nil => cases h
  | cons a rest ih =>
    cases a with
    | literal t =>
      rcases List.mem_cons.mp h with h | h
      · cases h
      · exact ih h
    | block b' =>
      rcases List.mem_cons.mp h with h | h
      · cases h
        exact List.mem_cons_self
      · exact List.mem_cons_of_mem _ (ih h)

theorem blocksOf_consLiteral (c : Char) (segments : Segments β) :
    blocksOf (consLiteral c segments) = blocksOf segments := by
  match segments with
  | [] | .literal _ :: _ | .block _ :: _ => rfl

theorem exists_read?_of_mem_blocksOf_scan [Block β] {s : List Char} {b : β}
    (h : b ∈ blocksOf (scan s)) : ∃ v rest, Block.read? v = some (b, rest) := by
  fun_induction scan (β := β) s with
  | case1 => cases h
  | case2 c s b' rest hread _ ih =>
    rcases List.mem_cons.mp h with rfl | h
    · exact ⟨_, _, hread⟩
    · exact ih h
  | case3 c s _ ih =>
    rw [blocksOf_consLiteral] at h
    exact ih h

/-- What a segment leaves of itself when its block is decided. -/
def keptText (kept : β → Bool → List Char) (taken : β → Bool) : Segment (List Char) β → List Char
  | .literal t => t
  | .block b => kept b (taken b)

/-- The call that reports a decision. -/
def decisionCall [Block β] (taken : β → Bool) (b : β) : Call :=
  .resolved (Block.kind β) (taken b)

section Resolve

variable [Block β] {decide decide' : β → Except Failure Bool} {kept : β → Bool → List Char}
  {taken : β → Bool} {segments rest : Segments β} {before after : List β} {b : β} {f : Failure}
  {answer : Bool}

theorem resolve_literal (t : List Char) (rest : Segments β) :
    resolve decide kept (.literal t :: rest) =
      ⟨(resolve decide kept rest).outcome.map (t ++ ·), (resolve decide kept rest).notices⟩ :=
  Report.bind_pure_eq _ _

theorem resolve_block_of_ok (h : decide b = .ok answer) (rest : Segments β) :
    resolve decide kept (.block b :: rest) =
      ⟨(resolve decide kept rest).outcome.map (kept b answer ++ ·),
        .call (.resolved (Block.kind β) answer) :: (resolve decide kept rest).notices⟩ := by
  rw [resolve, h, Report.ofExcept_ok_bind, Report.give_bind, Report.bind_pure_eq]

theorem resolve_block_of_error (h : decide b = .error f) (rest : Segments β) :
    resolve decide kept (.block b :: rest) = ⟨.error f, []⟩ := by
  rw [resolve, h, Report.ofExcept_error_bind]

theorem resolve_of_decided (h : ∀ b ∈ blocksOf segments, decide b = .ok (taken b)) :
    resolve decide kept segments = ⟨.ok (segments.flatMap (keptText kept taken)),
      (blocksOf segments).map fun b => .call (decisionCall taken b)⟩ := by
  induction segments with
  | nil => rfl
  | cons segment rest ih =>
    cases segment with
    | literal t => rw [resolve_literal, ih h]; rfl
    | block b =>
      obtain ⟨hb, hrest⟩ := List.forall_mem_cons.mp h
      rw [resolve_block_of_ok hb, ih hrest]
      rfl

theorem resolve_of_undecided (hl : blocksOf segments = before ++ b :: after)
    (h : ∀ b' ∈ before, decide b' = .ok (taken b')) (hb : decide b = .error f) :
    resolve decide kept segments =
      ⟨.error f, before.map fun b' => .call (decisionCall taken b')⟩ := by
  -- a literal leaves `before` as it is, a block takes the first one off
  induction segments generalizing before with
  | nil => cases before <;> cases hl
  | cons segment rest ih =>
    cases segment with
    | literal t => rw [resolve_literal, ih hl h]; rfl
    | block b' =>
      cases before with
      | nil =>
        obtain ⟨rfl, -⟩ := List.cons.inj hl
        exact resolve_block_of_error hb rest
      | cons b'' before =>
        obtain ⟨rfl, hrest⟩ := List.cons.inj hl
        obtain ⟨hb', hbefore⟩ := List.forall_mem_cons.mp h
        rw [resolve_block_of_ok hb', ih hrest hbefore]
        rfl

theorem resolve_congr (h : ∀ b ∈ blocksOf segments, decide b = decide' b) :
    resolve decide kept segments = resolve decide' kept segments := by
  induction segments with
  | nil => rfl
  | cons segment rest ih =>
    cases segment with
    | literal t => rw [resolve, resolve, ih h]
    | block b =>
      obtain ⟨hb, hrest⟩ := List.forall_mem_cons.mp h
      rw [resolve, resolve, hb, ih hrest]

/-- Nothing is put into a text: if a body is part of its block, in order, then so is what a pass
gives of its segments. -/
theorem sublist_of_outcome_resolve (hk : ∀ b answer, (kept b answer).Sublist (Block.text b))
    {output : List Char} (h : (resolve decide kept segments).outcome = .ok output) :
    output.Sublist (segments.flatMap segmentText) := by
  induction segments generalizing output with
  | nil =>
    cases h
    exact List.Sublist.slnil
  | cons segment rest ih =>
    -- a literal and a body alike come in front of what the rest gives
    have hmap {t u : List Char} (htu : t.Sublist u)
        (h : (resolve decide kept rest).outcome.map (t ++ ·) = .ok output) :
        output.Sublist (u ++ rest.flatMap segmentText) := by
      cases hr : (resolve decide kept rest).outcome with
      | error f => rw [hr] at h; cases h
      | ok resolved =>
        rw [hr] at h
        cases h
        exact htu.append (ih hr)
    cases segment with
    | literal t =>
      rw [resolve_literal] at h
      exact hmap (List.Sublist.refl t) h
    | block b =>
      cases hb : decide b with
      | error f => rw [resolve_block_of_error hb] at h; cases h
      | ok answer =>
        rw [resolve_block_of_ok hb] at h
        exact hmap (hk b answer) h

end Resolve

end Template

/-! ### Condition blocks -/

namespace ConditionBlock

/-- The condition of the block can be read. -/
def IsReadable (b : ConditionBlock) : Prop :=
  ∃ c, Condition.read b.condition = .ok c

/-- Whether the condition of the block holds of the record; one that cannot be read does not. -/
def holds (r : Record) (b : ConditionBlock) : Bool :=
  match Condition.read b.condition with
  | .ok c => c.holds r
  | .error _ => false

/-- The first block whose condition cannot be read comes after the blocks `before`, and `f` is why
it cannot. -/
def FirstFault (l before : List ConditionBlock) (f : Failure) : Prop :=
  ∃ b after, l = before ++ b :: after ∧ (∀ b' ∈ before, b'.IsReadable) ∧
    Condition.read b.condition = .error f

variable {b : ConditionBlock} {l : List ConditionBlock}

theorem decide_of_isReadable (h : b.IsReadable) (r : Record) : b.decide r = .ok (b.holds r) := by
  obtain ⟨c, hc⟩ := h
  rw [ConditionBlock.decide, Condition.evaluate, holds, hc]
  rfl

theorem readable_or_firstFault (l : List ConditionBlock) :
    (∀ b ∈ l, b.IsReadable) ∨ ∃ before f, FirstFault l before f := by
  induction l with
  | nil => exact .inl nofun
  | cons b l ih =>
    cases hb : Condition.read b.condition with
    | error f => exact .inr ⟨[], f, b, l, rfl, nofun, hb⟩
    | ok c =>
      rcases ih with hall | ⟨before, f, b', after, rfl, hbefore, hf⟩
      · exact .inl (List.forall_mem_cons.mpr ⟨⟨c, hb⟩, hall⟩)
      · exact .inr ⟨b :: before, f, b', after, rfl,
          List.forall_mem_cons.mpr ⟨⟨c, hb⟩, hbefore⟩, hf⟩

end ConditionBlock

/-! ### Presence blocks -/

namespace PresenceBlock

/-- Both fields that the block names are there, and neither is null. -/
def Holds (r : Record) (b : PresenceBlock) : Prop :=
  ∀ name ∈ [b.first, b.second], ∃ v, r.get? (String.ofList name) = some v ∧ v ≠ .null

theorem isNull_get_eq_false_iff {r : Record} {name : String} :
    (Record.get r name).isNull = false ↔ ∃ v, r.get? name = some v ∧ v ≠ .null := by
  rw [Record.get]
  cases r.get? name with
  | none => exact ⟨nofun, nofun⟩
  | some v =>
    constructor
    · intro h
      refine ⟨v, rfl, ?_⟩
      rintro rfl
      cases h
    · rintro ⟨_, ⟨⟩, hv⟩
      cases v with
      | null => exact absurd rfl hv
      | bool | int | decimal | text | sequence => rfl

theorem decide_eq_true_iff {r : Record} {b : PresenceBlock} : b.decide r = true ↔ b.Holds r := by
  rw [PresenceBlock.decide, Bool.and_eq_true, Bool.not_eq_true', Bool.not_eq_true',
    isNull_get_eq_false_iff, isNull_get_eq_false_iff, Holds, List.forall_mem_cons,
    List.forall_mem_singleton]

end PresenceBlock

/-! ### The two passes -/

namespace Template

variable {s : List Char} {before : List ConditionBlock} {f : Failure}

/-- The text with every condition block replaced by the body that is kept. -/
def settled (r : Record) (s : List Char) : List Char :=
  (scan s).flatMap (keptText ConditionBlock.kept (ConditionBlock.holds r))

/-- The text with every presence block replaced by its body or nothing. -/
def present (r : Record) (s : List Char) : List Char :=
  (scan s).flatMap (keptText PresenceBlock.kept (PresenceBlock.decide r))

theorem resolveConditions_of_readable (h : ∀ b ∈ conditionBlocks s, b.IsReadable) (r : Record) :
    resolveConditions r s = ⟨.ok (settled r s),
      (conditionBlocks s).map fun b => .call (decisionCall (ConditionBlock.holds r) b)⟩ :=
  resolve_of_decided fun b hb => ConditionBlock.decide_of_isReadable (h b hb) r

theorem resolveConditions_of_firstFault (h : ConditionBlock.FirstFault (conditionBlocks s) before f)
    (r : Record) : resolveConditions r s =
      ⟨.error f, before.map fun b => .call (decisionCall (ConditionBlock.holds r) b)⟩ := by
  obtain ⟨b, after, hl, hbefore, hb⟩ := h
  refine resolve_of_undecided hl
    (fun b' hb' => ConditionBlock.decide_of_isReadable (hbefore b' hb') r) ?_
  rw [ConditionBlock.decide, Condition.evaluate, hb]
  rfl

theorem resolvePresences_eq (r : Record) (s : List Char) :
    resolvePresences r s = ⟨.ok (present r s),
      (presenceBlocks s).map fun b => .call (decisionCall (PresenceBlock.decide r) b)⟩ :=
  resolve_of_decided fun _ _ => rfl

end Template

end ConditionalTemplate
