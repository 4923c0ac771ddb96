import ProbeCatalog.Proofs.Cache.Calls
import ProbeCatalog.Proofs.Provider.Naming

/-!
# Unique names as keys

A unique name can be cut again into the name and the hash that it was put together from, whatever
the name looks like, because a hash has always the same number of characters. So a row of the cache
is kept for one name and one hash only, through any number of calls.
-/
namespace ProbeCatalog.Name

/-- The name and the hash that a unique name consists of: the hash has the last sixteen characters,
and an underscore stands in front of it. -/
def parts (unique : String) : String × String :=
  let cs := unique.toList
  (String.ofList (cs.take (cs.length - 17)), String.ofList (cs.drop (cs.length - 16)))

lemma parts_unique {name hash : String} (h : IsHash hash.toList) :
    parts (unique name hash) = (name, hash) := by
  have hlength := h.1
  have hname : (name.toList ++ '_' :: hash.toList).length - 17 = name.toList.length := by
    rw [List.length_append, List.length_cons]
    omega
  have hfront : (name.toList ++ '_' :: hash.toList).length - 16 =
      (name.toList ++ ['_']).length := by
    rw [List.length_append, List.length_cons, List.length_append, List.length_singleton]
    omega
  rw [parts, toList_unique, hname, hfront, List.take_left,
    List.append_cons name.toList '_' hash.toList, List.drop_left, String.ofList_toList,
    String.ofList_toList]

/-- Of unique names that end in the hash of a text, no two differ in what they are put together
from. -/
lemma unique_hashOf_iff {name name' text text' : String} :
    unique name (hashOf text) = unique name' (hashOf text') ↔
      name = name' ∧ hashOf text = hashOf text' := by
  constructor
  · intro h
    exact unique_inj (isHash_hashOf text) (isHash_hashOf text') h
  · rintro ⟨rfl, h⟩
    rw [h]

end ProbeCatalog.Name

namespace ProbeCatalog.Cache

/-- The contents are named by the hash of some text. -/
def IsHashed (hash : String) : Prop := ∃ text, hash = Name.hashOf text

/-- The key of the row is put together from its name and its hash. -/
structure Keyed (row : CacheRow) : Prop where
  key : row.key = Name.unique row.name row.hash
  hash : IsHashed row.hash

/-- No row stands for providers of two names or of two hashes, and what was stored has a row: for
each name with a hash there is one row, and every provider that was ever stored under the key of
the row has this name and this hash. -/
structure KeepsApart (earlier : List CacheRow) (submissions : List Submission)
    (rows : List CacheRow) : Prop where
  stored : ∀ row ∈ rows, ∀ s ∈ submissions, s.provider.uniqueName = row.key →
    s.provider.name = row.name ∧ s.provider.hash = row.hash
  kept : ∀ row ∈ rows, ∀ e ∈ earlier, e.key = row.key → e.name = row.name ∧ e.hash = row.hash
  present : ∀ s ∈ submissions, ∃ row ∈ rows,
    row.name = s.provider.name ∧ row.hash = s.provider.hash
  single : ∀ row ∈ rows, ∀ row' ∈ rows, row.name = row'.name → row.hash = row'.hash → row = row'

lemma IsRowOf.keyed {s : Submission} {row : CacheRow} (h : IsRowOf s row)
    (hhash : IsHashed s.provider.hash) : Keyed row where
  key := by rw [h.key, Provider.uniqueName, h.name, h.hash]
  hash := by rwa [h.hash]

/-- Keys are equal if and only if the names and the hashes are. -/
lemma Keyed.key_eq_iff {row : CacheRow} {name hash : String} (h : Keyed row)
    (hhash : IsHashed hash) :
    Name.unique name hash = row.key ↔ name = row.name ∧ hash = row.hash := by
  obtain ⟨text, htext⟩ := h.hash
  obtain ⟨text', rfl⟩ := hhash
  rw [h.key, htext]
  exact Name.unique_hashOf_iff

lemma Tells.keyed {earlier rows : List CacheRow} {submissions : List Submission}
    (h : Tells earlier submissions rows) (hearlier : ∀ e ∈ earlier, Keyed e)
    (hhashed : ∀ s ∈ submissions, IsHashed s.provider.hash) : ∀ row ∈ rows, Keyed row := by
  intro row hrow
  obtain ⟨hlast, hnone⟩ := h.last row hrow
  cases hs : last? row.key submissions with
  | none => exact hearlier row (hnone hs)
  | some s =>
    have hmem : s ∈ submissions := List.mem_of_mem_filter (List.mem_of_getLast? hs)
    exact (hlast s hs).keyed (hhashed s hmem)

lemma Tells.keepsApart {earlier rows : List CacheRow} {submissions : List Submission}
    (h : Tells earlier submissions rows) (hearlier : ∀ e ∈ earlier, Keyed e)
    (hhashed : ∀ s ∈ submissions, IsHashed s.provider.hash) :
    KeepsApart earlier submissions rows := by
  have hkeyed := h.keyed hearlier hhashed
  constructor
  · intro row hrow s hs hkey
    exact ((hkeyed row hrow).key_eq_iff (hhashed s hs)).mp hkey
  · intro row hrow e he hkey
    rw [(hearlier e he).key] at hkey
    exact ((hkeyed row hrow).key_eq_iff (hearlier e he).hash).mp hkey
  · intro s hs
    have hmem : s.provider.uniqueName ∈ rows.map (·.key) :=
      (h.keys _).mpr (Or.inr (List.mem_map_of_mem hs))
    obtain ⟨row, hrow, hkey⟩ := List.mem_map.mp hmem
    obtain ⟨hname, hhash⟩ := ((hkeyed row hrow).key_eq_iff (hhashed s hs)).mp hkey.symm
    exact ⟨row, hrow, hname.symm, hhash.symm⟩
  · intro row hrow row' hrow' hname hhash
    have hkey : row.key = row'.key := by
      rw [(hkeyed row hrow).key, (hkeyed row' hrow').key, hname, hhash]
    exact List.inj_on_of_nodup_map h.distinct hrow hrow' hkey

/-- A unique name tells its name and its hash, also where the name ends in an underscore and
something that looks like a hash. So through any calls on a cache that was missing, empty or written
by earlier calls, with hashes of texts in what is stored, no row ever stands for two names or two
hashes. -/
theorem unique_name_tells_apart :
    (∀ name name' text text', Name.unique name (Name.hashOf text) =
        Name.unique name' (Name.hashOf text') →
      name = name' ∧ Name.hashOf text = Name.hashOf text') ∧
    (∀ name text, Name.parts (Name.unique name (Name.hashOf text)) = (name, Name.hashOf text)) ∧
    ∀ (d : Disk) (r : Route) (earlier : List CacheRow) (calls : List Call),
      Holds d r earlier → Written earlier → (∀ e ∈ earlier, IsHashed e.hash) →
      (∀ s ∈ (calls.zip (replay r d calls).2).flatMap stored, IsHashed s.provider.hash) →
      ∃ rows, Holds (replay r d calls).1 r rows ∧
        KeepsApart earlier ((calls.zip (replay r d calls).2).flatMap stored) rows := by
  refine ⟨fun name name' text text' h => Name.unique_hashOf_iff.mp h,
    fun name text => Name.parts_unique (Name.isHash_hashOf text), ?_⟩
  intro d r earlier calls hholds hwritten hearlier hhashed
  obtain ⟨rows, hrows, htells⟩ := replay_tells hholds (tells_nil hwritten.distinct) calls
  rw [List.nil_append] at htells
  have hkeyed : ∀ e ∈ earlier, Keyed e := by
    intro e he
    obtain ⟨s, -, hs⟩ := hwritten.tells e he
    have hhash := hearlier e he
    rw [hs.hash] at hhash
    exact hs.keyed hhash
  exact ⟨rows, hrows, htells.keepsApart hkeyed hhashed⟩

/-- A provider whose name looks like the unique name of another. -/
def echo : Provider :=
  { Record.clock (Name.hashOf Record.clockText) with
    name := Name.unique "clock" (Name.hashOf Record.clockText) }

theorem unique_name_tells_apart_echo :
    ∃ rows, Holds (replay newCache bareDisk
        [.store [clockAt "first.py", ⟨"second.py", some 1, echo⟩]]).1 newCache rows ∧
      ∃ row ∈ rows, ∃ row' ∈ rows, row.name = "clock" ∧ row'.name = echo.name ∧ row ≠ row' := by
  have hstored : ([Call.store [clockAt "first.py", ⟨"second.py", some 1, echo⟩]].zip
      (replay newCache bareDisk [.store [clockAt "first.py", ⟨"second.py", some 1, echo⟩]]).2
      ).flatMap stored = [clockAt "first.py", ⟨"second.py", some 1, echo⟩] := rfl
  have hhashed : ∀ s ∈ [clockAt "first.py", ⟨"second.py", some 1, echo⟩],
      IsHashed s.provider.hash := by
    intro s hs
    rcases List.mem_pair.mp hs with rfl | rfl
    · exact ⟨Record.clockText, rfl⟩
    · exact ⟨Record.clockText, rfl⟩
  obtain ⟨rows, hholds, hkeeps⟩ := unique_name_tells_apart.2.2 bareDisk newCache []
    [.store [clockAt "first.py", ⟨"second.py", some 1, echo⟩]] (.absent rfl rfl)
    ⟨List.nodup_nil, nofun⟩ nofun (by rw [hstored]; exact hhashed)
  rw [hstored] at hkeeps
  obtain ⟨row, hrow, hname, -⟩ := hkeeps.present (clockAt "first.py") (by simp)
  obtain ⟨row', hrow', hname', -⟩ := hkeeps.present ⟨"second.py", some 1, echo⟩ (by simp)
  refine ⟨rows, hholds, row, hrow, row', hrow', hname, hname', ?_⟩
  rintro rfl
  have hlength : "clock".length = (Name.unique "clock" (Name.hashOf Record.clockText)).length :=
    congrArg String.length (hname.symm.trans hname')
  have hunderscore : "_".length = 1 := rfl
  rw [Name.unique, String.length_append, String.length_append] at hlength
  omega

end ProbeCatalog.Cache
