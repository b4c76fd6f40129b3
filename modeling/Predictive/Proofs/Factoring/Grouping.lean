import Mathlib.Data.List.Sigma
import Mathlib.Data.List.Sort
import Predictive.Proofs.Factoring.Pass

/-!
# What grouping does to the order of alternatives

`gather` brings the items of a list together that have the same key: behind the first of them come
the others, in their order, and an item without key stays on its own. The groups of a list of
alternatives, one after another, are the alternatives gathered by the symbol that they begin with
(`Group.flatMap_members_ofAlternatives`).

That a gathered list is a permutation does not say in which order it is. `groupedStably` says it
without grouping anything: the items are sorted by the position of the first item with their key,
and then by their own position. Both are the same (`groupedStably_eq`), because there is one list
only that is sorted in this way.
-/

namespace Predictive

section Gather

variable {α β κ : Type} [DecidableEq κ]

def withKey (key : α → Option κ) (s : κ) (items : List α) : List α :=
  items.filter fun a => key a == some s

def withoutKey (key : α → Option κ) (s : κ) (items : List α) : List α :=
  items.filter fun a => !(key a == some s)

theorem length_withoutKey_le (key : α → Option κ) (s : κ) (items : List α) :
    (withoutKey key s items).length ≤ items.length :=
  List.length_filter_le _ _

theorem mem_withKey {key : α → Option κ} {s : κ} {items : List α} {a : α} :
    a ∈ withKey key s items ↔ a ∈ items ∧ key a = some s := by
  rw [withKey, List.mem_filter, beq_iff_eq]

theorem mem_withoutKey {key : α → Option κ} {s : κ} {items : List α} {a : α} :
    a ∈ withoutKey key s items ↔ a ∈ items ∧ key a ≠ some s := by
  rw [withoutKey, List.mem_filter, Bool.not_eq_true', beq_eq_false_iff_ne]

/-- Brings items with the same key together, behind the first of them. -/
def gather (key : α → Option κ) : List α → List α
  | [] => []
  | a :: rest =>
    match key a with
    | none => a :: gather key rest
    | some s => a :: (withKey key s rest ++ gather key (withoutKey key s rest))
termination_by items => items.length
decreasing_by
  · simp
  · have := length_withoutKey_le key s rest
    simp only [List.length_cons]
    omega

theorem gather_nil (key : α → Option κ) : gather key [] = [] := by
  rw [gather]

theorem gather_cons_none {key : α → Option κ} {a : α} (h : key a = none) (rest : List α) :
    gather key (a :: rest) = a :: gather key rest := by
  rw [gather, h]

theorem gather_cons_some {key : α → Option κ} {a : α} {s : κ} (h : key a = some s)
    (rest : List α) :
    gather key (a :: rest) =
      a :: (withKey key s rest ++ gather key (withoutKey key s rest)) := by
  rw [gather, h]

theorem gather_perm (key : α → Option κ) (items : List α) : (gather key items).Perm items := by
  fun_induction gather key items with
  | case1 => exact .nil
  | case2 a rest hkey ih => exact ih.cons a
  | case3 a rest s hkey ih =>
      exact ((ih.append_left _).trans (List.filter_append_perm _ rest)).cons a

theorem gather_map (key : β → Option κ) (f : α → β) (items : List α) :
    gather key (items.map f) = (gather (key ∘ f) items).map f := by
  fun_induction gather (key ∘ f) items with
  | case1 => exact gather_nil key
  | case2 a rest hkey ih =>
      rw [List.map_cons, gather_cons_none (by simpa using hkey), ih, List.map_cons]
  | case3 a rest s hkey ih =>
      have hwith : withKey key s (rest.map f) = (withKey (key ∘ f) s rest).map f :=
        List.filter_map
      have hwithout : withoutKey key s (rest.map f) = (withoutKey (key ∘ f) s rest).map f :=
        List.filter_map
      rw [List.map_cons, gather_cons_some (by simpa using hkey), hwith, hwithout, ih,
        List.map_cons, List.map_append]

/-- The position of the first item with the same key, or the own position of an item without. -/
def firstPosition (key : α → Option κ) (items : List (α × ℕ)) (x : α × ℕ) : ℕ :=
  match key x.1 with
  | none => x.2
  | some s => ((items.find? fun y => key y.1 == some s).map Prod.snd).getD x.2

def standsBefore (key : α → Option κ) (items : List (α × ℕ)) (x y : α × ℕ) : Bool :=
  decide (firstPosition key items x < firstPosition key items y ∨
    firstPosition key items x = firstPosition key items y ∧ x.2 ≤ y.2)

/-- The items, sorted stably by the position of the first item with their key. -/
def groupedStably (key : α → Option κ) (items : List α) : List α :=
  (items.zipIdx.mergeSort (standsBefore key items.zipIdx)).map Prod.fst

theorem standsBefore_iff {key : α → Option κ} {items : List (α × ℕ)} {x y : α × ℕ} :
    standsBefore key items x y = true ↔
      firstPosition key items x < firstPosition key items y ∨
        firstPosition key items x = firstPosition key items y ∧ x.2 ≤ y.2 := by
  rw [standsBefore, decide_eq_true_eq]

section Positions

variable {key : α → Option κ} {a : α × ℕ} {rest : List (α × ℕ)}

theorem firstPosition_self : firstPosition key (a :: rest) a = a.2 := by
  cases h : key a.1 with
  | none => simp [firstPosition, h]
  | some s => simp [firstPosition, h]

theorem firstPosition_of_key_eq {s : κ} (ha : key a.1 = some s) {x : α × ℕ}
    (hx : key x.1 = some s) : firstPosition key (a :: rest) x = a.2 := by
  simp [firstPosition, ha, hx]

theorem firstPosition_cons_of_ne {x : α × ℕ} (h : key x.1 ≠ none → key a.1 ≠ key x.1) :
    firstPosition key (a :: rest) x = firstPosition key rest x := by
  cases hx : key x.1 with
  | none => simp [firstPosition, hx]
  | some s =>
      have hne : key a.1 ≠ some s := hx ▸ h (by simp [hx])
      simp [firstPosition, hx, hne]

theorem firstPosition_withoutKey {s : κ} {x : α × ℕ} (h : key x.1 ≠ some s) :
    firstPosition key (withoutKey (key ∘ Prod.fst) s rest) x = firstPosition key rest x := by
  cases hx : key x.1 with
  | none => simp [firstPosition, hx]
  | some t =>
      have hfind : (withoutKey (key ∘ Prod.fst) s rest).find? (fun y => key y.1 == some t) =
          rest.find? fun y => key y.1 == some t := by
        rw [withoutKey, List.find?_filter]
        congr 1
        funext y
        by_cases hy : key y.1 = some t
        · have hne : key y.1 ≠ some s := fun heq => h (hx.trans (hy.symm.trans heq))
          rw [hy] at hne
          simpa [hy] using hne
        · simp [hy]
      simp only [firstPosition, hx, hfind]

/-- What has another key than the first item is where it was without the items of that key. -/
theorem firstPosition_cons_of_key_ne {s : κ} (ha : key a.1 = some s) {x : α × ℕ}
    (hx : key x.1 ≠ some s) : firstPosition key (a :: rest) x =
      firstPosition key (withoutKey (key ∘ Prod.fst) s rest) x := by
  rw [firstPosition_withoutKey hx]
  exact firstPosition_cons_of_ne fun _ heq => hx (heq ▸ ha)

theorem lt_firstPosition {n : ℕ} (h : ∀ y ∈ rest, n < y.2) {x : α × ℕ} (hx : x ∈ rest) :
    n < firstPosition key rest x := by
  cases hkey : key x.1 with
  | none => simpa [firstPosition, hkey] using h x hx
  | some s =>
      cases hfind : rest.find? fun y => key y.1 == some s with
      | none => simpa [firstPosition, hkey, hfind] using h x hx
      | some y => simpa [firstPosition, hkey, hfind] using h y (List.mem_of_find?_eq_some hfind)

end Positions

theorem pairwise_gather (key : α → Option κ) {items : List (α × ℕ)}
    (h : items.Pairwise fun x y => x.2 < y.2) :
    (gather (key ∘ Prod.fst) items).Pairwise fun x y => standsBefore key items x y = true := by
  simp only [standsBefore_iff]
  fun_induction gather (key ∘ Prod.fst) items with
  | case1 => exact .nil
  | case2 a rest hkey ih =>
      obtain ⟨ha, hrest⟩ := List.pairwise_cons.mp h
      have hsame : ∀ x, firstPosition key (a :: rest) x = firstPosition key rest x := fun x =>
        firstPosition_cons_of_ne fun hx heq => hx (heq.symm.trans hkey)
      refine .cons (fun x hx => .inl ?_) ((ih hrest).imp fun hxy => by simpa only [hsame] using hxy)
      rw [firstPosition_self, hsame]
      exact lt_firstPosition ha ((gather_perm _ rest).subset hx)
  | case3 a rest s hkey ih =>
      obtain ⟨ha, hrest⟩ := List.pairwise_cons.mp h
      have hothers : ∀ x ∈ gather (key ∘ Prod.fst) (withoutKey (key ∘ Prod.fst) s rest),
          x ∈ rest ∧ key x.1 ≠ some s :=
        fun x hx => mem_withoutKey.mp ((gather_perm _ _).subset hx)
      have hlater : ∀ x ∈ gather (key ∘ Prod.fst) (withoutKey (key ∘ Prod.fst) s rest),
          a.2 < firstPosition key (a :: rest) x := by
        intro x hx
        rw [firstPosition_cons_of_key_ne hkey (hothers x hx).2]
        exact lt_firstPosition (fun y hy => ha y (mem_withoutKey.mp hy).1)
          ((gather_perm _ _).subset hx)
      have hsame : ∀ x ∈ withKey (key ∘ Prod.fst) s rest,
          firstPosition key (a :: rest) x = a.2 :=
        fun x hx => firstPosition_of_key_eq hkey (mem_withKey.mp hx).2
      refine .cons (fun x hx => ?_) (List.pairwise_append.mpr ⟨?_, ?_, fun x hx y hy => ?_⟩)
      · rw [firstPosition_self]
        rcases List.mem_append.mp hx with hx | hx
        · exact .inr ⟨(hsame x hx).symm, (ha x (mem_withKey.mp hx).1).le⟩
        · exact .inl (hlater x hx)
      · have hown := hrest.sublist (List.filter_sublist (p := fun x => key x.1 == some s))
        refine hown.imp_of_mem fun {x y} hx hy hxy => .inr ⟨?_, hxy.le⟩
        rw [hsame x hx, hsame y hy]
      · refine (ih (hrest.sublist List.filter_sublist)).imp_of_mem fun {x y} hx hy hxy => ?_
        rwa [firstPosition_cons_of_key_ne hkey (hothers x hx).2,
          firstPosition_cons_of_key_ne hkey (hothers y hy).2]
      · rw [hsame x hx]
        exact .inl (hlater y hy)

theorem pairwise_zipIdx (items : List α) :
    items.zipIdx.Pairwise fun x y => x.2 < y.2 := by
  rw [← List.pairwise_map (R := (· < ·)) (f := Prod.snd), List.zipIdx_map_snd]
  exact List.pairwise_lt_range' 1

theorem pairwise_mergeSort_standsBefore (key : α → Option κ) (items : List (α × ℕ)) :
    (items.mergeSort (standsBefore key items)).Pairwise
      fun x y => standsBefore key items x y = true := by
  refine List.pairwise_mergeSort (fun x y z hxy hyz => ?_) (fun x y => ?_) items
  · rw [standsBefore_iff] at hxy hyz ⊢
    omega
  · rw [Bool.or_eq_true, standsBefore_iff, standsBefore_iff]
    omega

/-- There is one way only to put items in order. -/
theorem groupedStably_eq (key : α → Option κ) (items : List α) :
    groupedStably key items = gather key items := by
  have hperm := (List.mergeSort_perm items.zipIdx (standsBefore key items.zipIdx)).trans
    (gather_perm (key ∘ Prod.fst) _).symm
  have hsorted : items.zipIdx.mergeSort (standsBefore key items.zipIdx) =
      gather (key ∘ Prod.fst) items.zipIdx := by
    refine hperm.eq_of_pairwise (fun x y hx hy hxy hyx => ?_)
      (pairwise_mergeSort_standsBefore key items.zipIdx)
      (pairwise_gather key (pairwise_zipIdx items))
    rw [standsBefore_iff] at hxy hyx
    refine List.inj_on_of_nodup_map (List.nodup_zipIdx_map_snd items)
      ((List.mergeSort_perm _ _).subset hx) ((gather_perm _ _).subset hy) ?_
    omega
  rw [groupedStably, hsorted, ← gather_map, List.zipIdx_map_fst]

/-- Numbers by their last digit, where a zero is on its own. -/
example : groupedStably (fun n : ℕ => if n = 0 then none else some (n % 10))
    [21, 0, 3, 11, 0, 53, 1] = [21, 11, 1, 0, 3, 53, 0] := by cbv

end Gather

namespace Alternative

def Apart (a b : Alternative) : Prop :=
  leading? a = none ∨ leading? a ≠ leading? b

theorem sharedLength_eq_zero_iff {a b : Alternative} : sharedLength a b = 0 ↔ Apart a b := by
  refine ⟨fun h => ?_, sharedLength_eq_zero⟩
  by_contra hapart
  obtain ⟨hsome, heq⟩ := not_or.mp hapart
  obtain ⟨s, hs⟩ := Option.ne_none_iff_exists'.mp hsome
  rw [hs, ne_eq, not_not] at heq
  obtain ⟨ha, hne⟩ := eq_cons_of_leading?_eq_some hs
  obtain ⟨hb, -⟩ := eq_cons_of_leading?_eq_some heq.symm
  rw [ha, hb, sharedLength_cons_cons, if_pos ⟨rfl, hne⟩] at h
  cases h

theorem overlap_eq_zero_iff {alternatives : List Alternative} :
    overlap alternatives = 0 ↔ alternatives.Pairwise Apart := by
  rw [← Nat.le_zero, overlap_le_iff]
  simp only [Nat.le_zero, sharedLength_eq_zero_iff]

end Alternative

namespace Group

theorem leading?_of_mem_members {group : Group} {a : Alternative} (h : a ∈ group.members)
    {s : Symbol} (ha : Alternative.leading? a = some s) : group.leading? = some s := by
  cases group with
  | single b => rwa [List.mem_singleton.mp h] at ha
  | shared t suffixes =>
      obtain ⟨suffix, -, rfl⟩ := List.mem_map.mp h
      have heq := (Alternative.eq_cons_of_leading?_eq_some ha).1
      rw [leading?, (List.cons.inj heq).1]

/-- The groups, one after another, are the alternatives gathered by what they begin with. -/
theorem flatMap_members_ofAlternatives (alternatives : List Alternative) :
    (ofAlternatives alternatives).flatMap members = gather Alternative.leading? alternatives := by
  fun_induction ofAlternatives alternatives with
  | case1 => exact (gather_nil _).symm
  | case2 a rest hhead ih =>
      rw [gather_cons_none hhead, List.flatMap_cons, ih]
      rfl
  | case3 a rest s hhead ih =>
      rw [gather_cons_some hhead, List.flatMap_cons, ih,
        members_ofMembers (leading?_beginningWith hhead rest)]
      rfl

theorem perm_flatMap_members (alternatives : List Alternative) :
    ((ofAlternatives alternatives).flatMap members).Perm alternatives := by
  rw [flatMap_members_ofAlternatives]
  exact gather_perm _ alternatives

/-- Where no two alternatives begin with the same symbol, each is on its own. -/
theorem ofAlternatives_of_pairwise {alternatives : List Alternative}
    (h : alternatives.Pairwise Alternative.Apart) :
    ofAlternatives alternatives = alternatives.map single := by
  fun_induction ofAlternatives alternatives with
  | case1 => rfl
  | case2 a rest hhead ih => rw [ih (List.pairwise_cons.mp h).2, List.map_cons]
  | case3 a rest s hhead ih =>
      obtain ⟨ha, hrest⟩ := List.pairwise_cons.mp h
      have hother : ∀ b ∈ rest, Alternative.leading? b ≠ some s := by
        intro b hb heq
        rcases ha b hb with hnone | hne
        · exact Option.some_ne_none s (hhead.symm.trans hnone)
        · exact hne (hhead.trans heq.symm)
      have hbegin : beginningWith s rest = [] :=
        List.filter_eq_nil_iff.mpr fun b hb => by simpa using hother b hb
      have hnot : notBeginningWith s rest = rest :=
        List.filter_eq_self.mpr fun b hb => by simpa using hother b hb
      rw [hnot] at ih ⊢
      rw [hbegin, ih hrest, List.map_cons]
      rfl

theorem beginningWith_notBeginningWith {s t : Symbol} (h : t ≠ s)
    (alternatives : List Alternative) :
    beginningWith s (notBeginningWith t alternatives) = beginningWith s alternatives := by
  rw [beginningWith, beginningWith, notBeginningWith, List.filter_filter]
  refine List.filter_congr fun a _ => ?_
  by_cases ha : Alternative.leading? a = some s
  · simp [ha, h.symm]
  · simp [ha]

theorem suffixes_eq_of_shared_mem {alternatives : List Alternative} {s : Symbol}
    {suffixes : List (List Symbol)} (h : shared s suffixes ∈ ofAlternatives alternatives) :
    suffixes = (beginningWith s alternatives).map List.tail := by
  fun_induction ofAlternatives alternatives with
  | case1 => cases h
  | case2 a rest hhead ih =>
      rw [beginningWith, List.filter_cons_of_neg (by simp [hhead])]
      rcases List.mem_cons.mp h with h | h
      · cases h
      · exact ih h
  | case3 a rest t hhead ih =>
      rcases List.mem_cons.mp h with h | h
      · cases hothers : beginningWith t rest with
        | nil =>
            rw [hothers] at h
            cases h
        | cons b others =>
            rw [hothers] at h
            cases h
            rw [← hothers, beginningWith, beginningWith, List.filter_cons_of_pos (by simp [hhead])]
      · obtain ⟨b, hb, hlead⟩ := leading?_mem h
        have hne : t ≠ s := by
          rintro rfl
          simpa [hlead, leading?] using (List.mem_filter.mp hb).2
        have hcons : beginningWith s (a :: rest) = beginningWith s rest :=
          List.filter_cons_of_neg (by simp [hhead, hne])
        rw [ih h, beginningWith_notBeginningWith hne, hcons]

def sharedHead? : Group → Option Symbol
  | single _ => none
  | shared s _ => some s

end Group

def sharedHeads (alternatives : List Alternative) : List Symbol :=
  let heads := alternatives.filterMap Alternative.leading?
  heads.eraseDups.filter fun s => 2 ≤ heads.count s

namespace Group

theorem filterMap_notBeginningWith (s : Symbol) (alternatives : List Alternative) :
    (notBeginningWith s alternatives).filterMap Alternative.leading? =
      (alternatives.filterMap Alternative.leading?).filter fun t => !(t == s) := by
  rw [notBeginningWith, List.filterMap_filter, List.filter_filterMap]
  refine List.filterMap_congr fun a _ => ?_
  cases h : Alternative.leading? a with
  | none => simp
  | some t => by_cases ht : t = s <;> simp [ht, Option.filter]

/-- The first symbol counts if another alternative begins with it, and the others are counted
without the alternatives that do. -/
theorem sharedHeads_cons {a : Alternative} {s : Symbol} (h : Alternative.leading? a = some s)
    (rest : List Alternative) :
    sharedHeads (a :: rest) = (if 1 ≤ (beginningWith s rest).length then [s] else []) ++
      sharedHeads (notBeginningWith s rest) := by
  have hown : (rest.filterMap Alternative.leading?).count s = (beginningWith s rest).length := by
    rw [List.count_filterMap, List.countP_eq_length_filter, beginningWith]
  have hothers : ∀ t ∈ ((rest.filterMap Alternative.leading?).filter fun t => !(t == s)).eraseDups,
      (s :: rest.filterMap Alternative.leading?).count t =
        ((rest.filterMap Alternative.leading?).filter fun t => !(t == s)).count t := by
    intro t ht
    have hne := (List.mem_filter.mp (List.mem_eraseDups.mp ht)).2
    have hts : t ≠ s := by simpa using hne
    rw [List.count_filter (p := fun t => !(t == s)) hne, List.count_cons_of_ne hts.symm]
  rw [sharedHeads, sharedHeads, filterMap_notBeginningWith, List.filterMap_cons_some h]
  rw [List.eraseDups_cons, List.filter_cons, List.count_cons_self, hown,
    List.filter_congr fun t ht => by rw [hothers t ht]]
  by_cases h : 1 ≤ (beginningWith s rest).length <;> simp [h]

/-- The shared groups are those of the symbols that several alternatives begin with. -/
theorem filterMap_sharedHead? (alternatives : List Alternative) :
    (ofAlternatives alternatives).filterMap sharedHead? = sharedHeads alternatives := by
  fun_induction ofAlternatives alternatives with
  | case1 => rfl
  | case2 a rest hhead ih =>
      rw [List.filterMap_cons_none rfl, ih, sharedHeads, sharedHeads,
        List.filterMap_cons_none hhead]
  | case3 a rest s hhead ih =>
      rw [sharedHeads_cons hhead, ← ih]
      cases beginningWith s rest <;> rfl

end Group

end Predictive
