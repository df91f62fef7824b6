import Mathlib.Data.String.Basic
import CompileWorker.Files

namespace CompileWorker.Files

structure IsName (name : String) : Prop where
  ne_empty : name ≠ ""
  ne_dots : name ≠ "." ∧ name ≠ ".."
  no_slash : '/' ∉ name.toList
  no_nul : '\x00' ∉ name.toList
  short : name.utf8ByteSize ≤ longestName

theorem splitOnAux_of_not_mem {c : Char} (front rest : List Char) (h : c ∉ rest) :
    (String.ofList (front ++ rest)).splitOnAux (String.singleton c) 0 ⟨String.utf8Len front⟩ 0 [] =
      [String.ofList (front ++ rest)] := by
  induction rest generalizing front with
  | nil =>
    rw [String.splitOnAux, if_pos ((String.atEnd_of_valid front []).mpr rfl)]
    simpa using String.extract_of_valid [] front []
  | cons d rest ih =>
    obtain ⟨hd, hrest⟩ := not_or.mp (mt List.mem_cons.mpr h)
    have hend : ¬ String.Pos.Raw.atEnd (String.ofList (front ++ d :: rest))
        ⟨String.utf8Len front⟩ := by
      rw [String.atEnd_of_valid]
      exact List.cons_ne_nil _ _
    have hget : String.Pos.Raw.get (String.singleton c) 0 = c := by
      simpa using String.get_of_valid [] [c]
    have hne : ¬ (String.Pos.Raw.get (String.ofList (front ++ d :: rest)) ⟨String.utf8Len front⟩ ==
        String.Pos.Raw.get (String.singleton c) 0) := by
      rw [String.get_of_valid, hget]
      simpa using Ne.symm hd
    have hnext := ih (front ++ [d]) hrest
    rw [List.append_assoc, List.singleton_append] at hnext
    rw [String.splitOnAux, if_neg hend, if_neg hne]
    change String.splitOnAux _ _ _ (String.Pos.Raw.next _ ⟨String.utf8Len front⟩) 0 [] = _
    rw [String.next_of_valid]
    simpa [-String.ofList_append, String.utf8Len_append] using hnext

theorem parts_of_not_mem {path : String} (h : '/' ∉ path.toList) : parts path = [path] := by
  have hsplit := splitOnAux_of_not_mem [] path.toList h
  rwa [List.nil_append, String.ofList_toList] at hsplit

theorem find_name {fs : Files} {name : String} {node : FileNode} (h : IsName name)
    (hnode : fs.node? [name] = some node) : fs.find name = .ok node := by
  have hrelative : ¬ name.startsWith "/" := by
    rw [String.startsWith_string_iff]
    exact fun hslash ↦ h.no_slash (hslash.subset List.mem_cons_self)
  have hnul : ¬ name.toList.contains '\x00' := by simpa using h.no_nul
  have hlong : ¬ longestPath < name.utf8ByteSize := by
    have hshort := h.short
    simp only [longestName, longestPath] at hshort ⊢
    omega
  have hwalk : fs.walk [] [name] = .ok [name] := by
    rw [walk, show fs.node? [] = some .directory from rfl]
    simp only [h.ne_empty, h.ne_dots.1, h.ne_dots.2, false_or, if_false, Nat.not_lt.mpr h.short,
      List.nil_append, hnode, Option.isSome_some, if_true, walk]
  rw [find, resolve, resolveFrom, if_neg hnul, if_neg h.ne_empty, if_neg hlong, if_neg hrelative,
    parts_of_not_mem h.no_slash, hwalk]
  simp only [bind, Except.bind, hnode]
  rfl

theorem read_name {fs : Files} {name : String} {content : List UInt8} (h : IsName name)
    (hnode : fs.node? [name] = some (.file content)) : fs.read name = .ok content := by
  rw [read, find_name h hnode]
  rfl

end CompileWorker.Files
