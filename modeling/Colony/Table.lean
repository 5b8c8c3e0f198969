/-!
# Tables

A table maps keys to values and lists its entries in the order in which their
keys were first put.  Putting a known key keeps its place and replaces its
value.
-/

namespace Colony

abbrev Table (κ ν : Type) := List (κ × ν)

namespace Table

variable {κ ν : Type} [BEq κ]

def get? (key : κ) : Table κ ν → Option ν
  | [] => none
  | (k, v) :: rest => if k == key then some v else get? key rest

def put (key : κ) (value : ν) : Table κ ν → Table κ ν
  | [] => [(key, value)]
  | (k, v) :: rest => if k == key then (k, value) :: rest else (k, v) :: put key value rest

def ofList (entries : List (κ × ν)) : Table κ ν :=
  entries.foldl (fun table entry => table.put entry.1 entry.2) []

theorem get?_put_self [ReflBEq κ] (key : κ) (value : ν) (table : Table κ ν) :
    (table.put key value).get? key = some value := by
  induction table with
  | nil => simp [put, get?]
  | cons entry rest ih =>
      unfold put
      split
      · simp [get?, *]
      · simp [get?, *]

theorem get?_put_of_ne [LawfulBEq κ] {key other : κ} (ne : key ≠ other) (value : ν)
    (table : Table κ ν) : (table.put key value).get? other = table.get? other := by
  induction table with
  | nil => simp [put, get?, ne]
  | cons entry rest ih =>
      obtain ⟨k, v⟩ := entry
      unfold put
      split
      · rename_i same
        have : k = key := eq_of_beq same
        simp [get?, this, ne]
      · simp only [get?, ih]

theorem put_of_absent [LawfulBEq κ] {key : κ} {table : Table κ ν}
    (absent : key ∉ table.map (·.1)) (value : ν) :
    table.put key value = table ++ [(key, value)] := by
  induction table with
  | nil => rfl
  | cons entry rest ih =>
      obtain ⟨k, v⟩ := entry
      simp only [List.map_cons, List.mem_cons, not_or] at absent
      simp [put, Ne.symm absent.1, ih absent.2]

/-- Entries with one value for each key are their own table. -/
theorem ofList_of_nodup [LawfulBEq κ] {entries : List (κ × ν)}
    (distinct : (entries.map (·.1)).Nodup) : ofList entries = entries := by
  have build : ∀ table : Table κ ν, ((table ++ entries).map (·.1)).Nodup →
      entries.foldl (fun table entry => table.put entry.1 entry.2) table = table ++ entries := by
    clear distinct
    induction entries with
    | nil => simp
    | cons entry rest ih =>
        intro table distinct
        have absent : entry.1 ∉ table.map (·.1) := by
          rw [List.map_append, List.nodup_append] at distinct
          exact fun member => distinct.2.2 _ member _ (by simp) rfl
        rw [List.foldl_cons, put_of_absent absent, ih _ (by simpa using distinct),
          List.append_assoc, List.singleton_append]
  exact build [] distinct

end Table

end Colony
