import Cadastre.Proofs.Cache.LastWriter
import Cadastre.Proofs.Json.Entries
import Cadastre.Proofs.Json.Rereading

/-!
What a file tells of a partition whose record was the last to be saved, whatever else is in it: if
it can be read at all, then that record, even if numbers elsewhere in it were spoiled.
-/

namespace Cadastre

namespace Json

variable {depth : Nat} {value : Json} {members later : Members} {key : String}

theorem reread_eq_spelled (fits : value.Fits depth) : value.reread = value.spelled := by
  have read := Document.read?_write_eq_reread value
  rw [Document.read?_write fits] at read
  exact (Option.some.inj read).symm

theorem settle?_reread (fits : value.Fits depth) (ordered : value.Ordered) :
    value.reread.settle? depth = some value := by
  rw [reread_eq_spelled fits, settle?_spelled value fits ordered]

theorem get?_of_read?_write (ascending : members.Ascending)
    (read : read? (Text.utf8 (object members).write) = some (.object later)) (key : String) :
    (later.get? key).map some
      = (members.get? key).map fun value => value.reread.settle? (greatestDepth - 1) := by
  rw [read?, Document.read?_write_eq_reread, Option.bind_some, reread, spelled, Document.again,
    spelledMembers_eq_map, Document.againMembers_eq_map, List.map_map] at read
  obtain ⟨found, settled, same⟩ := Option.map_eq_some_iff.mp read
  have entries := Document.settleMembers?_spelled (greatestDepth - 1)
    (members.map fun member => (member.1, member.2.reread))
  rw [List.map_map] at entries
  have settled' : (members.map fun member => (member.1, member.2.reread)).mapM
      (Document.settlePair? (greatestDepth - 1)) = some found := entries.symm.trans settled
  have each := List.forall₂_reverse_iff.mpr (Document.settlePairs_eq_some settled').2
  cases same
  calc ((Members.ofList found).get? key).map some
      = (found.reverse.find? fun member => member.1 = key).map fun member => some member.2 := by
        rw [Members.get?_ofList, Option.map_map]
        rfl
    _ = ((members.map fun member => (member.1, member.2.reread)).reverse.find?
          fun entry => entry.1 = key).map fun entry => entry.2.settle? (greatestDepth - 1) :=
        (Document.find?_settled key each).symm
    _ = ((Members.ofList members).get? key).map
          fun value => value.reread.settle? (greatestDepth - 1) := by
        rw [Members.get?_ofList, ← List.map_reverse, List.find?_map, Option.map_map,
          Option.map_map]
        rfl
    _ = _ := by rw [Members.ofList_of_ascending ascending]

end Json

namespace ProgressCache

open Json

variable {cache : ProgressCache} {contents : Option Bytes} {partition : Partition}
  {record : Record} {found : Option Record} {bytes : Bytes} {members : Members}

theorem ordered_of_members (read : cache.members contents = .ok members) :
    (Json.object members).Ordered := by
  have holds := holdsObject_of_members read
  cases contents with
  | none =>
      obtain rfl : members = [] := holds
      exact ⟨List.Pairwise.nil, trivial⟩
  | some bytes => exact (settled_of_read? holds).ordered

theorem load_of_save (saved : cache.save contents partition record = .ok bytes)
    (loaded : cache.load (some bytes) partition = .ok found) : found = some record := by
  cases read : cache.members contents with
  | error fault => simp [save, read, bind, Except.bind] at saved
  | ok members =>
      cases again : cache.members (some bytes) with
      | error fault => simp [load, again, bind, Except.bind] at loaded
      | ok later =>
          have ordered := ordered_withRecord cache (ordered_of_members read) partition record
          simp only [save, read, bind, Except.bind, Except.ok.injEq] at saved
          have holds : read? bytes = some (.object later) := holdsObject_of_members again
          subst saved
          have told := get?_of_read?_write ordered.1 holds partition.tag
          rw [get?_withRecord_self, Option.map_some,
            settle?_reread (Fits.mono (by decide) _ (fits_sorted _ record.fits_toJson))
              (ordered_sorted record.toJson), Option.map_eq_some_iff] at told
          obtain ⟨value, entry, same⟩ := told
          rw [Option.some.inj same] at entry
          rw [load_of_members again entry, Except.ok.injEq] at loaded
          exact loaded.symm

end ProgressCache

end Cadastre
