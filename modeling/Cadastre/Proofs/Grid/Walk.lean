import Cadastre.Grid.Walk
import Cadastre.Proofs.Grid.Exactness
import Cadastre.Proofs.Grid.Table

/-!
Walks that number cells: those that visit different cells, each within the width and at a position
below the number of cells visited. Such a walk visits every cell of those positions, and so the
table that it fills is a permutation.
-/

namespace Cadastre

namespace Point

variable {point other : Point} {width : UInt32}

theorem position_injective (left : point.x < width) (left' : other.x < width)
    (same : point.position width = other.position width) : point = other := by
  rw [UInt32.lt_iff_toNat_lt] at left left'
  have row := congrArg (· / width.toNat) same
  have col := congrArg (· % width.toNat) same
  simp only [position, tile_div left, tile_div left', tile_mod left, tile_mod left'] at row col
  cases point
  cases other
  rw [Point.mk.injEq]
  exact ⟨UInt32.toNat_inj.mp col, UInt32.toNat_inj.mp row⟩

end Point

namespace Walk

open Permutation (vacant)

variable {width : UInt32} {length : Nat} {visited rest walk : Walk} {point : Point}
  {table done : Array UInt32}

/-- Different cells, each within the width and at a position below the size. -/
def Within (width : UInt32) (size : Nat) (walk : Walk) : Prop :=
  walk.Nodup ∧ ∀ point ∈ walk, point.x < width ∧ point.position width < size

theorem Within.nodup_positions {size : Nat} (within : Within width size walk) :
    (walk.map (·.position width)).Nodup :=
  within.1.map_on fun point member other member' same =>
    Point.position_injective (within.2 point member).1 (within.2 other member').1 same

/-- The table holds the step of every cell visited, and nothing anywhere else. -/
structure Entered (width : UInt32) (visited : Walk) (table : Array UInt32) : Prop where
  step : ∀ (step : Nat) point, visited[step]? = some point →
    table[point.position width]? = some (UInt32.ofNat step)
  free : ∀ slot < table.size, (∀ point ∈ visited, point.position width ≠ slot) →
    table[slot]? = some vacant

theorem entered_start (width : UInt32) (size : Nat) :
    Entered width [] (Array.replicate size vacant) where
  step _ _ held := by cases held
  free slot bound _ := by
    rw [Array.size_replicate] at bound
    rw [Array.getElem?_replicate, if_pos bound]

theorem Entered.vacant_iff (entered : Entered width visited table)
    (short : visited.length < UInt32.size) {slot : Nat} (bound : slot < table.size) :
    table[slot]? = some vacant ↔ ∀ point ∈ visited, point.position width ≠ slot := by
  refine ⟨?_, entered.free slot bound⟩
  rintro empty point member rfl
  obtain ⟨step, below, held⟩ := List.mem_iff_getElem.mp member
  have full := entered.step step point (held ▸ List.getElem?_eq_getElem below)
  rw [empty, Option.some.injEq] at full
  have limit : visited.length < 4294967296 := short
  exact Permutation.ofNat_ne_vacant (by omega) full.symm

theorem Entered.set (entered : Entered width visited table)
    (slot : point.position width < table.size)
    (unvisited : ∀ earlier ∈ visited, earlier.position width ≠ point.position width) :
    Entered width (visited ++ [point])
      (table.set (point.position width) (UInt32.ofNat visited.length)) where
  step step other held := by
    by_cases earlier : step < visited.length
    · rw [List.getElem?_append_left earlier] at held
      rw [Array.getElem?_set_ne slot (unvisited other (List.mem_of_getElem? held)).symm]
      exact entered.step step other held
    · obtain ⟨bound, _⟩ := List.getElem?_eq_some_iff.mp held
      rw [List.length_append, List.length_singleton] at bound
      obtain rfl : step = visited.length := by omega
      rw [List.getElem?_concat_length, Option.some.injEq] at held
      subst held
      exact Array.getElem?_set_self slot
  free place bound unlike := by
    rw [Array.size_set] at bound
    rw [Array.getElem?_set_ne slot (unlike point (by simp))]
    exact entered.free place bound fun earlier member => unlike earlier (by simp [member])

theorem Within.snoc {size : Nat} (within : Within width size visited) (left : point.x < width)
    (below : point.position width < size)
    (unvisited : ∀ earlier ∈ visited, earlier.position width ≠ point.position width) :
    Within width size (visited ++ [point]) := by
  constructor
  · refine List.nodup_append.mpr ⟨within.1, List.nodup_singleton point, ?_⟩
    rintro earlier member other last rfl
    rw [List.mem_singleton] at last
    exact unvisited earlier member (by rw [last])
  · intro other member
    rcases List.mem_append.mp member with earlier | last
    · exact within.2 other earlier
    · rw [List.mem_singleton.mp last]
      exact ⟨left, below⟩

theorem entered_of_enter (within : Within width table.size visited)
    (entered : Entered width visited table) (short : (visited ++ rest).length < UInt32.size)
    (ended : enter width length visited.length table rest = .ok done) :
    done.size = table.size ∧ Within width table.size (visited ++ rest) ∧
      Entered width (visited ++ rest) done := by
  induction rest generalizing visited table with
  | nil =>
      cases ended
      rw [List.append_nil]
      exact ⟨rfl, within, entered⟩
  | cons point rest ih =>
      unfold enter at ended
      split at ended
      · cases ended
      · rename_i left
        split at ended
        · rename_i slot
          split at ended
          · rename_i empty
            have few : visited.length < UInt32.size := by
              rw [List.length_append] at short
              omega
            have unvisited := (entered.vacant_iff few slot).mp (by
              rw [Array.getElem?_eq_getElem slot, empty])
            have whole : visited ++ [point] ++ rest = visited ++ point :: rest := by simp
            have count : (visited ++ [point]).length = visited.length + 1 := by simp
            have next := @ih (visited ++ [point])
              (table.set (point.position width) (UInt32.ofNat visited.length))
            rw [Array.size_set, whole, count] at next
            exact next (within.snoc (UInt32.not_le.mp left) slot unvisited)
              (entered.set slot unvisited) short ended
          · cases ended
        · cases ended

theorem exists_enter (entered : Entered width visited table)
    (within : Within width table.size (visited ++ rest)) :
    ∃ done, enter width length visited.length table rest = .ok done := by
  induction rest generalizing visited table with
  | nil => exact ⟨table, rfl⟩
  | cons point rest ih =>
      obtain ⟨left, slot⟩ := within.2 point (by simp)
      have unvisited : ∀ earlier ∈ visited,
          earlier.position width ≠ point.position width := by
        intro earlier member same
        obtain rfl := Point.position_injective (within.2 earlier (by simp [member])).1 left same
        exact (List.nodup_append.mp within.1).2.2 earlier member earlier (by simp) rfl
      have empty := entered.free _ slot unvisited
      rw [Array.getElem?_eq_getElem slot, Option.some.injEq] at empty
      have whole : visited ++ [point] ++ rest = visited ++ point :: rest := by simp
      have count : (visited ++ [point]).length = visited.length + 1 := by simp
      have next := @ih (visited ++ [point])
        (table.set (point.position width) (UInt32.ofNat visited.length))
      rw [Array.size_set, whole, count] at next
      obtain ⟨done, ended⟩ := next (entered.set slot unvisited) within
      refine ⟨done, ?_⟩
      rw [enter, if_neg (UInt32.not_le.mpr left), dif_pos slot, if_pos empty]
      exact ended

theorem enter_ne_table (step : Nat) (table : Array UInt32) (fault : TableFault) :
    enter width length step table walk ≠ .error (.table fault) := by
  intro failed
  induction walk generalizing step table with
  | nil => cases failed
  | cons point rest ih =>
      unfold enter at failed
      split at failed
      · cases failed
      · split at failed
        · split at failed
          · exact ih _ _ failed
          · cases failed
        · cases failed

theorem Within.exists_step (within : Within width walk.length walk) {slot : Nat}
    (bound : slot < walk.length) :
    ∃ (step : Nat) (point : Point), walk[step]? = some point ∧ point.position width = slot := by
  have all : (walk.map (·.position width)).Perm (List.range walk.length) := by
    apply Permutation.perm_of_nodup_of_lt within.nodup_positions
    · intro position member
      obtain ⟨point, found, rfl⟩ := List.mem_map.mp member
      exact (within.2 point found).2
    · rw [List.length_map]
  obtain ⟨point, member, same⟩ := List.mem_map.mp (all.mem_iff.mpr (List.mem_range.mpr bound))
  obtain ⟨step, below, held⟩ := List.mem_iff_getElem.mp member
  exact ⟨step, point, held ▸ List.getElem?_eq_getElem below, same⟩

section Complete

variable (within : Within width walk.length walk) (entered : Entered width walk table)
  (size : table.size = walk.length) (short : walk.length < UInt32.size)
include within entered size short

theorem Entered.perm_range : (table.toList.map UInt32.toNat).Perm (List.range table.size) := by
  have steps : ∀ slot, (bound : slot < table.size) → ∃ step point, walk[step]? = some point ∧
      point.position width = slot ∧ step < walk.length ∧ table[slot].toNat = step := by
    intro slot bound
    obtain ⟨step, point, held, rfl⟩ := within.exists_step (size ▸ bound)
    obtain ⟨below, _⟩ := List.getElem?_eq_some_iff.mp held
    have entry := entered.step step point held
    rw [Array.getElem?_eq_getElem bound, Option.some.injEq] at entry
    refine ⟨step, point, held, rfl, below, ?_⟩
    rw [entry, UInt32.toNat_ofNat_of_lt' (below.trans short)]
  apply Permutation.perm_of_nodup_of_lt
  · rw [List.nodup_iff_injective_getElem]
    intro first second same
    simp only [List.getElem_map, Array.getElem_toList] at same
    have firstBound : first.1 < table.size := by simpa using first.2
    have secondBound : second.1 < table.size := by simpa using second.2
    obtain ⟨step, point, held, place, -, entry⟩ := steps first firstBound
    obtain ⟨step', point', held', place', -, entry'⟩ := steps second secondBound
    obtain rfl : step = step' := by rw [← entry, ← entry', same]
    rw [held, Option.some.injEq] at held'
    apply Fin.ext
    rw [← place, ← place', held']
  · intro key member
    obtain ⟨value, found, rfl⟩ := List.mem_map.mp member
    obtain ⟨slot, bound, rfl⟩ := Array.mem_iff_getElem.mp (Array.mem_toList_iff.mp found)
    obtain ⟨step, _, _, _, below, entry⟩ := steps slot bound
    rw [entry, size]
    exact below
  · simp

end Complete

variable {permutation : Permutation}

section Short

variable (short : walk.length < UInt32.size)
include short

theorem entered_of_enter_start
    (ended : enter width walk.length 0 (Array.replicate walk.length vacant) walk = .ok table) :
    table.size = walk.length ∧ Within width walk.length walk ∧ Entered width walk table := by
  have start : Within width (Array.replicate walk.length vacant).size [] :=
    ⟨List.nodup_nil, fun _ member => by cases member⟩
  have whole := entered_of_enter start (entered_start width walk.length) short ended
  rw [Array.size_replicate, List.nil_append] at whole
  exact whole

theorem permutation_eq_ok_of_enter
    (ended : enter width walk.length 0 (Array.replicate walk.length vacant) walk = .ok table) :
    ∃ permutation, walk.permutation width = .ok permutation ∧ permutation.forward = table := by
  obtain ⟨size, within, entered⟩ := entered_of_enter_start short ended
  obtain ⟨permutation, accepted⟩ := (Permutation.exists_ofTable_iff (size ▸ short)).mpr
    (entered.perm_range within size short)
  refine ⟨permutation, ?_, Permutation.forward_of_ofTable accepted⟩
  rw [Walk.permutation, ended]
  simp only [accepted]

theorem enter_of_permutation (accepted : walk.permutation width = .ok permutation) :
    enter width walk.length 0 (Array.replicate walk.length vacant) walk
      = .ok permutation.forward := by
  cases ended : enter width walk.length 0 (Array.replicate walk.length vacant) walk with
  | error fault =>
      rw [Walk.permutation, ended] at accepted
      cases accepted
  | ok table =>
      obtain ⟨other, accepted', forward⟩ := permutation_eq_ok_of_enter short ended
      rw [accepted, Except.ok.injEq] at accepted'
      rw [accepted', forward]

theorem exists_permutation_iff :
    (∃ permutation, walk.permutation width = .ok permutation) ↔
      Within width walk.length walk := by
  constructor
  · rintro ⟨permutation, accepted⟩
    exact (entered_of_enter_start short (enter_of_permutation short accepted)).2.1
  · intro within
    obtain ⟨table, ended⟩ : ∃ table, enter width walk.length 0
        (Array.replicate walk.length vacant) walk = .ok table :=
      exists_enter (entered_start width walk.length)
        (by rwa [Array.size_replicate, List.nil_append])
    obtain ⟨permutation, accepted, _⟩ := permutation_eq_ok_of_enter short ended
    exact ⟨permutation, accepted⟩

theorem permutation_ne_table (fault : TableFault) :
    walk.permutation width ≠ .error (.table fault) := by
  cases ended : enter width walk.length 0 (Array.replicate walk.length vacant) walk with
  | error other =>
      intro failed
      rw [Walk.permutation, ended, Except.error.injEq] at failed
      exact enter_ne_table 0 _ fault (failed ▸ ended)
  | ok table =>
      obtain ⟨permutation, accepted, _⟩ := permutation_eq_ok_of_enter short ended
      intro failed
      rw [accepted] at failed
      cases failed

theorem keys_of_permutation (accepted : walk.permutation width = .ok permutation) :
    permutation.size = walk.length ∧ ∀ (step : Nat) point, walk[step]? = some point →
      permutation.keyOf? (UInt32.ofNat (point.position width)) = some (UInt32.ofNat step) ∧
      (permutation.positionOf? (UInt32.ofNat step)).map UInt32.toNat
        = some (point.position width) := by
  obtain ⟨size, within, entered⟩ := entered_of_enter_start short
    (enter_of_permutation short accepted)
  refine ⟨size, fun step point held => ?_⟩
  have below := (within.2 point (List.mem_of_getElem? held)).2
  have exact : (UInt32.ofNat (point.position width)).toNat = point.position width :=
    UInt32.toNat_ofNat_of_lt' (below.trans short)
  have key : permutation.keyOf? (UInt32.ofNat (point.position width))
      = some (UInt32.ofNat step) := by
    rw [Permutation.keyOf?, exact]
    exact entered.step step point held
  have fits : permutation.size < UInt32.size := by
    rw [Permutation.size, size]
    exact short
  refine ⟨key, ?_⟩
  rw [(Permutation.keyOf?_eq_some_iff fits _ _).mp key, Option.map_some, exact]

end Short

end Walk

end Cadastre
