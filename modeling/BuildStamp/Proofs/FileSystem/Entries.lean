import BuildStamp.FileSystem.Operation

set_option autoImplicit false

/-!
The algebra of entries that are put and erased. Of two entries put at one place the last one stays,
an entry put where there was none is undone by erasing it, and what happens at different places
does not interfere. The operations that fill, move and empty files come down to these.
-/

namespace BuildStamp

namespace Association

variable {Key Value : Type} [BEq Key]

theorem erase_idem (entries : List (Key × Value)) (key : Key) :
    erase (erase entries key) key = erase entries key := by
  simp only [erase, List.filter_filter, Bool.and_self]

theorem erase_comm (entries : List (Key × Value)) (key other : Key) :
    erase (erase entries key) other = erase (erase entries other) key := by
  simp only [erase, List.filter_filter, Bool.and_comm]

variable [LawfulBEq Key]

theorem erase_insert_self (entries : List (Key × Value)) (key : Key) (value : Value) :
    erase (insert entries key value) key = erase entries key := by
  rw [insert, erase, List.filter_cons_of_neg (by simp)]
  exact erase_idem entries key

theorem erase_insert_of_ne (entries : List (Key × Value)) {key other : Key} (apart : key ≠ other)
    (value : Value) :
    erase (insert entries key value) other = insert (erase entries other) key value := by
  rw [insert, erase, List.filter_cons_of_pos (by simp [apart]), insert]
  exact congrArg _ (erase_comm entries key other)

theorem insert_insert (entries : List (Key × Value)) (key : Key) (first second : Value) :
    insert (insert entries key first) key second = insert entries key second :=
  congrArg _ (erase_insert_self entries key first)

/-- Where a key has no value it has no entry. -/
theorem erase_of_lookup_eq_none {entries : List (Key × Value)} {key : Key}
    (absent : entries.lookup key = none) : erase entries key = entries := by
  rw [List.lookup_eq_none_iff] at absent
  rw [erase, List.filter_eq_self]
  intro entry member
  have other := absent entry member
  rw [bne, BEq.comm] at other
  exact other

end Association

namespace FileSystem

variable (files : FileSystem) (place other : Place)

theorem put_put (first second : Node) :
    (files.put place first).put place second = files.put place second :=
  congrArg (fun entries => { files with entries })
    (Association.insert_insert files.entries place first second)

theorem erase_put_self (node : Node) : (files.put place node).erase place = files.erase place :=
  congrArg (fun entries => { files with entries })
    (Association.erase_insert_self files.entries place node)

theorem erase_put_of_ne (apart : place ≠ other) (node : Node) :
    (files.put place node).erase other = (files.erase other).put place node :=
  congrArg (fun entries => { files with entries })
    (Association.erase_insert_of_ne files.entries apart node)

variable {files place other}

theorem ne_nil_of_absent (absent : files.node? place = none) : place ≠ [] := by
  rintro rfl
  cases absent

theorem erase_of_absent (absent : files.node? place = none) : files.erase place = files := by
  have below := ne_nil_of_absent absent
  rw [node?, if_neg below] at absent
  rw [erase, Association.erase_of_lookup_eq_none absent]

/-- An entry put where there was none, and taken away again. -/
theorem erase_put_of_absent (absent : files.node? place = none) (node : Node) :
    (files.put place node).erase place = files := by
  rw [erase_put_self, erase_of_absent absent]

theorem node?_put_self (below : place ≠ []) (node : Node) :
    (files.put place node).node? place = some node := by
  rw [node?_put files place place node below, if_pos rfl]

theorem node?_put_of_ne (below : place ≠ []) (apart : other ≠ place) (node : Node) :
    (files.put place node).node? other = files.node? other := by
  rw [node?_put files place other node below, if_neg apart]

theorem append_put (below : place ≠ []) (contents bytes : List UInt8) (permissions : Nat) :
    (files.put place (.file contents permissions)).append place bytes =
      files.put place (.file (contents ++ bytes) permissions) := by
  simp only [append, node?_put_self below, put_put]

theorem setPermissions_put (below : place ≠ []) (contents : List UInt8)
    (permissions changed : Nat) :
    (files.put place (.file contents permissions)).setPermissions place changed =
      files.put place (.file contents changed) := by
  simp only [setPermissions, node?_put_self below, put_put]

theorem append_of_file {contents : List UInt8} {permissions : Nat}
    (file : files.node? place = some (.file contents permissions)) (bytes : List UInt8) :
    files.append place bytes = files.put place (.file (contents ++ bytes) permissions) := by
  simp only [append, file]

end FileSystem

end BuildStamp
