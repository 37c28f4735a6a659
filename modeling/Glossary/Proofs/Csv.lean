import Glossary.Csv
import Glossary.Proofs.Answers
import Glossary.Proofs.Load.Tables

set_option autoImplicit false

namespace Glossary.Csv

theorem length_columnNames (header : List String) :
    (columnNames header).length = header.length := by
  have grows : ∀ (named names used : List String),
      (names.foldl (fun used name =>
        (if used.contains name then freshName (named ++ used) name else name) :: used) used).length =
        used.length + names.length := by
    intro named names
    induction names with
    | nil => exact fun _ => rfl
    | cons name rest ih =>
        intro used
        rw [List.foldl_cons, ih, List.length_cons, List.length_cons]
        omega
  rw [columnNames, List.length_reverse, grows, List.length_nil, List.length_map,
    List.length_zipIdx, Nat.zero_add]

theorem length_of_mem_rowsOf {width : Nat} {lines : List (Nat × List String)}
    {rows : List (List String)} (read : rowsOf width lines = .ok rows) :
    ∀ row ∈ rows, row.length = width := by
  induction lines generalizing rows with
  | nil =>
      cases read
      exact nofun
  | cons first rest ih =>
      obtain ⟨line, fields⟩ := first
      by_cases wider : width < fields.length
      · rw [rowsOf, if_pos wider] at read
        cases read
      · rw [rowsOf, if_neg wider] at read
        obtain ⟨others, found, rfl⟩ := map_eq_ok_iff.1 read
        have filled : (padded width fields).length = width := by
          rw [padded, List.length_append, List.length_replicate]
          omega
        exact List.forall_mem_cons.2 ⟨filled, ih found⟩

theorem complete_of_read {text : String} {s : Sheet} (found : read text = .ok s) : s.Complete := by
  rw [read] at found
  -- How the text was cut into lines does not matter here.
  generalize scan .lineStart {} _ = lines at found
  simp only at found
  split at found
  · obtain ⟨_, -, failed⟩ := bind_eq_ok_iff.1 found
    cases failed
  · rename_i header lines _
    obtain ⟨rows, filled, rest⟩ := bind_eq_ok_iff.1 found
    obtain ⟨-, -, rfl⟩ := map_eq_ok_iff.1 rest
    refine List.forall_mem_map.2 fun row member => ⟨?_, fun absent => ?_⟩
    · have width := length_of_mem_rowsOf filled row member
      rw [List.length_map, List.length_drop, width, length_columnNames]
      omega
    · obtain ⟨_, -, same⟩ := List.mem_map.1 absent
      cases same

end Glossary.Csv
