import Mathlib.Data.List.DropRight
import Mathlib.Data.List.Nodup
import CheckScript.Pattern

/-!
# The groups of a pattern

What a pattern means is put together in a simplest form (`Regex.sequence`, `Regex.branches`,
`Regex.repeated`), and its groups have numbers. In the pattern as it is written, a group is a pair
of parentheses, and nothing is numbered. Both have the same groups in the same order, but for those
in a repetition of no rounds at all (`Expr.groups_meaning`): such a group can take no part in a
match, and what the pattern means does not have it.

Taking out what all branches of a union begin with is the one step at which a group could get lost,
as it leaves out parts of all branches but one. None does: these parts are the same up to the
numbers of their groups, and no number is there twice.

## Main definitions

* `Expr.writtenGroups`: the groups of a pattern, in the order of their opening parentheses.
* `numbered`: the numbers and names of those that can take part in a match.
-/

namespace CheckScript.Pattern

/-! ## Groups as they are written -/

/-- A group of a pattern as it is written. -/
structure WrittenGroup where
  name : Option String
  /-- Whether it can take part in a match: it is in no repetition of at most zero rounds. -/
  live : Bool
  deriving DecidableEq, Repr

mutual

/-- The groups of a pattern, in the order of their opening parentheses. -/
def Expr.writtenGroups : Expr → List WrittenGroup
  | .repeated body _ max _ =>
    if max = some 0 then body.writtenGroups.map ({ · with live := false }) else body.writtenGroups
  | .group (.capture name) body => ⟨name.map String.ofList, true⟩ :: body.writtenGroups
  | .group (.plain _) body => body.writtenGroups
  | .sequence parts => partsWrittenGroups parts
  | .branches parts => partsWrittenGroups parts
  | _ => []

/-- The groups of some patterns, those of the first in front. -/
def partsWrittenGroups : List Expr → List WrittenGroup
  | [] => []
  | part :: parts => part.writtenGroups ++ partsWrittenGroups parts

end

/-- The groups that can take part in a match with their numbers, where the first group has number
`next`. -/
def numbered (next : Nat) : List WrittenGroup → List (Nat × Option String)
  | [] => []
  | group :: groups =>
    if group.live then (next, group.name) :: numbered (next + 1) groups
    else numbered (next + 1) groups

theorem numbered_append (groups others : List WrittenGroup) (next : Nat) :
    numbered next (groups ++ others)
      = numbered next groups ++ numbered (next + groups.length) others := by
  induction groups generalizing next with
  | nil => rfl
  | cons group groups ih =>
    have hnext : next + 1 + groups.length = next + (group :: groups).length := by
      rw [List.length_cons]
      omega
    rw [List.cons_append, numbered, numbered, ih, hnext]
    split <;> simp

theorem numbered_dead (groups : List WrittenGroup) (next : Nat) :
    numbered next (groups.map ({ · with live := false })) = [] := by
  induction groups generalizing next with
  | nil => rfl
  | cons group groups ih => rw [List.map_cons, numbered, if_neg (by simp), ih]

theorem mem_numbered_iff {groups : List WrittenGroup} {next index : Nat} {name : Option String} :
    (index, name) ∈ numbered next groups ↔
      ∃ k, index = next + k ∧ groups[k]? = some ⟨name, true⟩ := by
  induction groups generalizing next with
  | nil => simp [numbered]
  | cons group groups ih =>
    have hhead : (index = next ∧ name = group.name) ∧ group.live = true
        ↔ index = next + 0 ∧ (group :: groups)[0]? = some ⟨name, true⟩ := by
      obtain ⟨written, live⟩ := group
      simp only [List.getElem?_cons_zero, Option.some.injEq, WrittenGroup.mk.injEq]
      tauto
    have htail : (∃ k, index = next + 1 + k ∧ groups[k]? = some ⟨name, true⟩)
        ↔ ∃ k, index = next + (k + 1) ∧ (group :: groups)[k + 1]? = some ⟨name, true⟩ := by
      simp only [List.getElem?_cons_succ, Nat.add_assoc, Nat.add_comm 1]
    have hsplit : (index, name) ∈ numbered next (group :: groups)
        ↔ ((index = next ∧ name = group.name) ∧ group.live = true)
          ∨ (index, name) ∈ numbered (next + 1) groups := by
      rw [numbered]
      split <;> simp_all
    rw [hsplit, ih, hhead, htail]
    exact Nat.or_exists_add_one
      (p := fun k => index = next + k ∧ (group :: groups)[k]? = some ⟨name, true⟩)

theorem pairwise_numbered (groups : List WrittenGroup) (next : Nat) :
    ((numbered next groups).map (·.1)).Pairwise (· < ·) := by
  induction groups generalizing next with
  | nil => exact .nil
  | cons group groups ih =>
    rw [numbered]
    split
    · refine .cons (fun index hindex => ?_) (ih (next + 1))
      obtain ⟨⟨i, name⟩, hmem, rfl⟩ := List.mem_map.mp hindex
      obtain ⟨k, rfl, -⟩ := mem_numbered_iff.mp hmem
      show next < next + 1 + k
      omega
    · exact ih (next + 1)

mutual

theorem Expr.names_writtenGroups :
    ∀ expr : Expr, expr.writtenGroups.filterMap (·.name) = expr.groupNames.map String.ofList
  | .repeated body _ max _ => by
    rw [Expr.writtenGroups, Expr.groupNames, ← body.names_writtenGroups]
    split
    · rw [List.filterMap_map]
      rfl
    · rfl
  | .group (.capture none) body => body.names_writtenGroups
  | .group (.capture (some name)) body => by
    rw [Expr.writtenGroups, Expr.groupNames, List.map_cons, ← body.names_writtenGroups]
    rfl
  | .group (.plain _) body => body.names_writtenGroups
  | .sequence parts => names_partsWrittenGroups parts
  | .branches parts => names_partsWrittenGroups parts
  | .flags _ => rfl
  | .literal _ => rfl
  | .dot => rfl
  | .anchor _ => rfl
  | .set _ => rfl

theorem names_partsWrittenGroups :
    ∀ parts : List Expr,
      (partsWrittenGroups parts).filterMap (·.name) = (partsGroupNames parts).map String.ofList
  | [] => rfl
  | part :: parts => by
    rw [partsWrittenGroups, partsGroupNames, List.filterMap_append, List.map_append,
      part.names_writtenGroups, names_partsWrittenGroups parts]

end

namespace Regex

theorem groupsOfAll_append (regexes others : List Regex) :
    groupsOfAll (regexes ++ others) = groupsOfAll regexes ++ groupsOfAll others := by
  induction regexes with
  | nil => rfl
  | cons regex regexes ih => rw [List.cons_append, groupsOfAll, ih, groupsOfAll, List.append_assoc]

theorem groupsOfAll_flatMap {f : Regex → List Regex}
    (hf : ∀ regex, groupsOfAll (f regex) = regex.groups) (regexes : List Regex) :
    groupsOfAll (regexes.flatMap f) = groupsOfAll regexes := by
  induction regexes with
  | nil => rfl
  | cons regex regexes ih =>
    rw [List.flatMap_cons, groupsOfAll_append, hf, ih, groupsOfAll]

theorem groupsOfAll_singleton (regex : Regex) : groupsOfAll [regex] = regex.groups := by
  rw [groupsOfAll, groupsOfAll, List.append_nil]

theorem groupsOfAll_parts (regex : Regex) : groupsOfAll regex.parts = regex.groups := by
  cases regex <;> simp [parts, groups, groupsOfAll]

theorem groupsOfAll_branchesOf (regex : Regex) : groupsOfAll regex.branchesOf = regex.groups := by
  cases regex <;> simp [branchesOf, groups, groupsOfAll]

@[simp]
theorem groups_ofSet (set : Unicode.CharSet) : (ofSet set).groups = [] := by
  unfold ofSet
  repeat' split
  all_goals rfl

theorem groups_repeated (body : Regex) (min : Nat) (max : Option Nat) (greedy : Bool) :
    (body.repeated min max greedy).groups = if max = some 0 then [] else body.groups := by
  -- a body that takes up nothing is repeated once at most, but never less often than it was
  have hmax (n : Nat) (hn : n = (max.map (Nat.min · 1)).getD 1) : n = 0 ↔ max = some 0 := by
    cases max with
    | none => simp [hn]
    | some count =>
      rw [hn, Option.map_some, Option.getD_some, Option.some.injEq]
      show Min.min count 1 = 0 ↔ count = 0
      omega
  unfold repeated
  split
  rename_i least most hbounds
  have hmost : most = some 0 ↔ max = some 0 := by
    split at hbounds <;> cases hbounds
    · rw [Option.some.injEq]
      exact hmax _ rfl
    · rfl
  by_cases hnone : max = some 0
  · rw [if_pos (hmost.mpr hnone), if_pos hnone, groups]
    all_goals nofun
  · rw [if_neg (hnone ∘ hmost.mp), if_neg hnone]
    split
    · rfl
    · rw [groups]

theorem groupsOfAll_inFront (part : Regex) (parts : List Regex) :
    groupsOfAll (inFront part parts) = part.groups ++ groupsOfAll parts := by
  unfold inFront
  split
  · simp [groupsOfAll, groups]
  · rw [groupsOfAll]

/-- A sequence has the groups of what it is put together from. -/
theorem groups_sequence (regexes : List Regex) :
    (sequence regexes).groups = groupsOfAll regexes := by
  have hjoined (parts : List Regex) : groupsOfAll (parts.foldr inFront []) = groupsOfAll parts := by
    induction parts with
    | nil => rfl
    | cons part parts ih => rw [List.foldr_cons, groupsOfAll_inFront, ih, groupsOfAll]
  rw [← groupsOfAll_flatMap groupsOfAll_parts regexes, ← hjoined, sequence]
  split
  case h_1 hparts => rw [hparts]; rfl
  case h_2 part hparts => rw [hparts, groupsOfAll_singleton]
  case h_3 => rfl

theorem groups_eq_nil_of_singleSet? {regex : Regex} {set : Unicode.CharSet}
    (h : regex.singleSet? = some set) : regex.groups = [] := by
  cases regex <;> first | rfl | cases h

theorem groups_eq_nil_of_charSet? {regex : Regex} {set : Unicode.CharSet}
    (h : regex.charSet? = some set) : regex.groups = [] := by
  cases regex <;> first | rfl | cases h

theorem groupsOfAll_eq_nil_iff {regexes : List Regex} :
    groupsOfAll regexes = [] ↔ ∀ regex ∈ regexes, regex.groups = [] := by
  induction regexes with
  | nil => simp [groupsOfAll]
  | cons regex regexes ih => rw [groupsOfAll, List.append_eq_nil_iff, ih, List.forall_mem_cons]

theorem groupsOfAll_eq_nil_of_mapM {f : Regex → Option Unicode.CharSet}
    (hf : ∀ regex set, f regex = some set → regex.groups = []) {regexes : List Regex}
    {sets : List Unicode.CharSet} (h : regexes.mapM f = some sets) : groupsOfAll regexes = [] := by
  induction regexes generalizing sets with
  | nil => rfl
  | cons regex regexes ih =>
    rw [List.mapM_cons] at h
    simp only [Option.bind_eq_bind, Option.bind_eq_some_iff] at h
    obtain ⟨first, hfirst, rest, hrest, -⟩ := h
    rw [groupsOfAll, hf regex first hfirst, ih hrest, List.append_nil]

/-- A union has the groups of what it is put together from. -/
theorem groups_choice (regexes : List Regex) : (choice regexes).groups = groupsOfAll regexes := by
  rw [← groupsOfAll_flatMap groupsOfAll_branchesOf regexes, choice]
  split
  case h_1 branch hbranches => rw [hbranches, groupsOfAll_singleton]
  case h_2 =>
    split
    case h_1 sets hsets =>
      rw [groups_ofSet]
      rcases Option.or_eq_some_iff.mp hsets with hsingle | ⟨-, hset⟩
      · exact (groupsOfAll_eq_nil_of_mapM (fun _ _ => groups_eq_nil_of_singleSet?) hsingle).symm
      · exact (groupsOfAll_eq_nil_of_mapM (fun _ _ => groups_eq_nil_of_charSet?) hset).symm
    case h_2 => rw [groups]

/-! ### What branches begin with -/

/-- The numbers of the groups of a pattern. -/
def indices (regex : Regex) : List Nat := regex.groups.map (·.1)

theorem map_fst_groupsOfAll (regexes : List Regex) :
    (groupsOfAll regexes).map (·.1) = regexes.flatMap indices := by
  induction regexes with
  | nil => rfl
  | cons regex regexes ih => rw [groupsOfAll, List.map_append, ih, List.flatMap_cons, indices]

theorem indices_eq_flatMap_parts (regex : Regex) : regex.indices = regex.parts.flatMap indices := by
  rw [indices, ← groupsOfAll_parts, map_fst_groupsOfAll]

theorem groups_eq_nil_of_indices {regex : Regex} (h : regex.indices = []) : regex.groups = [] :=
  List.map_eq_nil_iff.mp h

mutual

/-- Patterns that are the same have groups of the same numbers. -/
theorem indices_eq_of_same : ∀ {a b : Regex}, a.same b = true → a.indices = b.indices
  | .group i _ a, .group j _ b, h => by
    simp only [same, Bool.and_eq_true, beq_iff_eq] at h
    have hbody := indices_eq_of_same h.2
    rw [indices, indices] at hbody
    rw [indices, indices, groups, groups, List.map_cons, List.map_cons, h.1, hbody]
  | .seq as, .seq bs, h => by
    rw [indices, indices, groups, groups, map_fst_groupsOfAll, map_fst_groupsOfAll,
      flatMap_indices_eq_of_sameAll h]
  | .alt as, .alt bs, h => by
    rw [indices, indices, groups, groups, map_fst_groupsOfAll, map_fst_groupsOfAll,
      flatMap_indices_eq_of_sameAll h]
  | .loop a _ _ _, .loop b _ _ _, h => by
    simp only [same, Bool.and_eq_true] at h
    exact indices_eq_of_same (a := a) (b := b) h.2
  | .empty, .empty, _ => rfl
  | .text _, .text _, _ => rfl
  | .char _, .char _, _ => rfl
  | .look _, .look _, _ => rfl

theorem flatMap_indices_eq_of_sameAll :
    ∀ {as bs : List Regex}, sameAll as bs = true → as.flatMap indices = bs.flatMap indices
  | [], [], _ => rfl
  | a :: as, b :: bs, h => by
    simp only [sameAll, Bool.and_eq_true] at h
    rw [List.flatMap_cons, List.flatMap_cons, indices_eq_of_same h.1,
      flatMap_indices_eq_of_sameAll h.2]

end

theorem sharedWith_eq_take (as bs : List Regex) :
    sharedWith as bs = as.take (sharedWith as bs).length := by
  fun_induction sharedWith as bs with
  | case1 a as b bs hsame ih => rw [List.length_cons, List.take_succ_cons, ← ih]
  | case2 => rfl
  | case3 => rfl

theorem map_indices_sharedWith (as bs : List Regex) :
    (sharedWith as bs).map indices = (bs.map indices).take (sharedWith as bs).length := by
  fun_induction sharedWith as bs with
  | case1 a as b bs hsame ih =>
    rw [List.map_cons, List.length_cons, List.map_cons, List.take_succ_cons, ih,
      indices_eq_of_same hsame]
  | case2 => rfl
  | case3 => rfl

/-- Each branch begins with parts that have groups of the same numbers as what is shared. -/
theorem map_indices_sharedStart {branches : List Regex} (hstart : sharedStart branches ≠ [])
    {branch : Regex} (hbranch : branch ∈ branches) :
    (sharedStart branches).map indices
      = (branch.parts.map indices).take (sharedStart branches).length := by
  fun_induction sharedStart branches with
  | case1 => cases hbranch
  | case2 parts =>
    cases List.mem_singleton.mp hbranch
    rw [Regex.parts, List.take_of_length_le (by rw [List.length_map])]
  | case3 parts branches hmore ih =>
    rcases List.mem_cons.mp hbranch with rfl | hbranch
    · rw [Regex.parts, ← List.map_take, ← sharedWith_eq_take]
    · have hothers : sharedStart branches ≠ [] := by
        intro hnone
        rw [hnone, sharedWith] at hstart
        · exact hstart rfl
        · nofun
      have hshorter : (sharedWith parts (sharedStart branches)).length
          ≤ (sharedStart branches).length := by
        have hlength := congrArg List.length (map_indices_sharedWith parts (sharedStart branches))
        rw [List.length_map, List.length_take, List.length_map] at hlength
        omega
      rw [map_indices_sharedWith, ih hothers hbranch, List.take_take, Nat.min_eq_left hshorter]
  | case4 => exact absurd rfl hstart

/-- What two branches begin with has no groups, as no number is there twice. -/
theorem indices_eq_nil_of_mem_sharedStart {first second : Regex} {branches : List Regex}
    (hnodup : ((first :: second :: branches).flatMap indices).Nodup) {part : Regex}
    (hpart : part ∈ sharedStart (first :: second :: branches)) : part.indices = [] := by
  have hinside (branch : Regex) (hbranch : branch ∈ first :: second :: branches) (i : Nat)
      (hi : i ∈ part.indices) : i ∈ branch.indices := by
    have hmem := List.mem_map_of_mem (f := indices) hpart
    rw [map_indices_sharedStart (List.ne_nil_of_mem hpart) hbranch] at hmem
    obtain ⟨shared, hshared, heq⟩ := List.mem_map.mp (List.mem_of_mem_take hmem)
    rw [indices_eq_flatMap_parts, List.mem_flatMap]
    exact ⟨shared, hshared, heq ▸ hi⟩
  rw [List.flatMap_cons, List.flatMap_cons, List.nodup_append] at hnodup
  refine List.eq_nil_iff_forall_not_mem.mpr fun i hi => ?_
  exact hnodup.2.2 i (hinside first List.mem_cons_self i hi) i
    (List.mem_append_left _ (hinside second (List.mem_cons_of_mem _ List.mem_cons_self) i hi)) rfl

theorem groupsOfAll_map {f : Regex → Regex} {regexes : List Regex}
    (hf : ∀ regex ∈ regexes, (f regex).groups = regex.groups) :
    groupsOfAll (regexes.map f) = groupsOfAll regexes := by
  induction regexes with
  | nil => rfl
  | cons regex regexes ih =>
    rw [List.map_cons, groupsOfAll, groupsOfAll, hf regex List.mem_cons_self,
      ih fun regex hregex => hf regex (List.mem_cons_of_mem _ hregex)]

/-- What branches begin with, together with what is left of them, has the groups of the branches. -/
theorem groupsOfAll_sharedStart_append {branches : List Regex}
    (hnodup : (branches.flatMap indices).Nodup) (hstart : sharedStart branches ≠ []) :
    groupsOfAll (sharedStart branches) ++ groupsOfAll
        (branches.map fun branch => sequence (branch.parts.drop (sharedStart branches).length))
      = groupsOfAll branches := by
  match branches with
  | [] => exact absurd rfl hstart
  | [branch] =>
    have hparts : sharedStart [branch] = branch.parts := by
      cases branch <;> first | rfl | exact absurd rfl hstart
    rw [hparts, List.map_singleton, List.drop_length, groupsOfAll_singleton, groups_sequence,
      groupsOfAll_parts, groupsOfAll, List.append_nil, groupsOfAll_singleton]
  | first :: second :: others =>
    generalize hshared : sharedStart (first :: second :: others) = start at hstart
    have hnone (part : Regex) (hpart : part ∈ start) : part.indices = [] :=
      indices_eq_nil_of_mem_sharedStart hnodup (hshared ▸ hpart)
    have hgone : groupsOfAll start = [] :=
      groupsOfAll_eq_nil_iff.mpr fun part hpart => groups_eq_nil_of_indices (hnone part hpart)
    rw [hgone, List.nil_append]
    refine groupsOfAll_map fun branch hbranch => ?_
    have htaken : groupsOfAll (branch.parts.take start.length) = [] := by
      refine groupsOfAll_eq_nil_iff.mpr fun part hpart => groups_eq_nil_of_indices ?_
      have hmem := List.mem_map_of_mem (f := indices) hpart
      have hsame := map_indices_sharedStart (hshared ▸ hstart) hbranch
      rw [hshared] at hsame
      rw [List.map_take, ← hsame] at hmem
      obtain ⟨shared, hpart, heq⟩ := List.mem_map.mp hmem
      rw [← heq, hnone shared hpart]
    rw [groups_sequence, ← groupsOfAll_parts branch]
    conv_rhs => rw [← List.take_append_drop start.length branch.parts]
    rw [groupsOfAll_append, htaken, List.nil_append]

/-- **A union has all the groups of its branches**, also if what they begin with is put in front
of it. -/
theorem groups_branches {regexes : List Regex}
    (hnodup : ((groupsOfAll regexes).map (·.1)).Nodup) :
    (branches regexes).groups = groupsOfAll regexes := by
  rw [← groups_choice] at hnodup ⊢
  unfold branches
  split
  case h_2 => rfl
  case h_1 parts hparts =>
    rw [hparts, groups] at hnodup ⊢
    rw [map_fst_groupsOfAll] at hnodup
    split
    case h_1 => rw [groups]
    case h_2 hstart =>
      rw [groups_sequence, groupsOfAll_append, groupsOfAll_singleton, groups_choice,
        groupsOfAll_sharedStart_append hnodup hstart]

end Regex

/-! ## Numbers of groups -/

mutual

/-- **The groups of what a pattern means are those written in it that can take part in a match**,
numbered by their opening parentheses. -/
theorem Expr.groups_meaning :
    ∀ (expr : Expr) {mode : Mode} {next : Nat} {m : Meaning}, expr.meaning? mode next = some m →
      m.regex.groups = numbered next expr.writtenGroups
        ∧ m.next = next + expr.writtenGroups.length
  | .flags _, _, _, _, h => by
    cases h
    exact ⟨rfl, rfl⟩
  | .anchor _, _, _, _, h => by
    cases h
    exact ⟨rfl, rfl⟩
  | .literal _, _, _, _, h => by
    obtain ⟨set, -, rfl⟩ := Option.map_eq_some_iff.mp h
    exact ⟨Regex.groups_ofSet set, rfl⟩
  | .dot, _, _, _, h => by
    obtain ⟨set, -, rfl⟩ := Option.map_eq_some_iff.mp h
    exact ⟨Regex.groups_ofSet set, rfl⟩
  | .set _, _, _, _, h => by
    obtain ⟨set, -, rfl⟩ := Option.map_eq_some_iff.mp h
    exact ⟨Regex.groups_ofSet set, rfl⟩
  | .repeated body _ max _, _, next, _, h => by
    rw [Expr.meaning?] at h
    obtain ⟨inner, hinner, rfl⟩ := Option.map_eq_some_iff.mp h
    obtain ⟨hgroups, hnext⟩ := body.groups_meaning hinner
    rw [Regex.groups_repeated, Expr.writtenGroups, hgroups, hnext]
    split
    · exact ⟨(numbered_dead _ next).symm, by rw [List.length_map]⟩
    · exact ⟨rfl, rfl⟩
  | .group (.plain _) body, _, _, _, h => by
    rw [Expr.meaning?] at h
    obtain ⟨inner, hinner, rfl⟩ := Option.map_eq_some_iff.mp h
    obtain ⟨hgroups, hnext⟩ := body.groups_meaning hinner
    exact ⟨hgroups, hnext⟩
  | .group (.capture _) body, _, _, _, h => by
    rw [Expr.meaning?] at h
    obtain ⟨inner, hinner, rfl⟩ := Option.map_eq_some_iff.mp h
    obtain ⟨hgroups, hnext⟩ := body.groups_meaning hinner
    rw [Expr.writtenGroups, numbered, if_pos rfl, Regex.groups, hgroups, hnext, List.length_cons]
    exact ⟨rfl, by omega⟩
  | .sequence parts, _, _, _, h => by
    rw [Expr.meaning?] at h
    obtain ⟨inner, hinner, rfl⟩ := Option.map_eq_some_iff.mp h
    obtain ⟨hgroups, hnext⟩ := groups_partMeanings parts hinner
    exact ⟨(Regex.groups_sequence _).trans hgroups, hnext⟩
  | .branches parts, _, next, _, h => by
    rw [Expr.meaning?] at h
    obtain ⟨inner, hinner, rfl⟩ := Option.map_eq_some_iff.mp h
    obtain ⟨hgroups, hnext⟩ := groups_partMeanings parts hinner
    have hnodup : ((Regex.groupsOfAll inner.regexes).map (·.1)).Nodup := by
      rw [hgroups]
      exact (pairwise_numbered _ next).imp Nat.ne_of_lt
    exact ⟨(Regex.groups_branches hnodup).trans hgroups, hnext⟩

theorem groups_partMeanings :
    ∀ (parts : List Expr) {mode : Mode} {next : Nat} {m : Meanings},
      partMeanings? mode next parts = some m →
      Regex.groupsOfAll m.regexes = numbered next (partsWrittenGroups parts)
        ∧ m.next = next + (partsWrittenGroups parts).length
  | [], _, _, _, h => by
    cases h
    exact ⟨rfl, rfl⟩
  | part :: parts, _, _, _, h => by
    simp only [partMeanings?, Option.bind_eq_bind, Option.bind_eq_some_iff, Option.pure_def,
      Option.some.injEq] at h
    obtain ⟨first, hfirst, others, hothers, rfl⟩ := h
    obtain ⟨hgroups, hnext⟩ := part.groups_meaning hfirst
    obtain ⟨hrest, hlast⟩ := groups_partMeanings parts hothers
    rw [hnext] at hrest hlast
    rw [Regex.groupsOfAll, partsWrittenGroups, numbered_append, hgroups, hrest, hlast,
      List.length_append, Nat.add_assoc]
    exact ⟨rfl, rfl⟩

end

end CheckScript.Pattern
