import CodeMetrics.OrderedTable
import Mathlib.Data.List.Induction
import Mathlib.Data.List.Nodup

/-!
# Keys and values of ordered tables

What writing does to a table: a new key goes to the end, a known key keeps its
place (`keys_insert`), no key is listed twice (`nodup_keys_ofList`).  A table
written pair by pair has its keys in the order of their first pairs
(`keys_ofList`) and under each key the value of its last pair
(`get?_ofList`).  Keys and values are all there is to a table
(`ext_of_keys_of_get?`).  Taking entries out leaves the other keys and values as
they are (`keys_erase`, `keys_filter`, `get?_erase`, `get?_filter`), and
overriding one table by another is writing their pairs one after the other
(`ofList_append`).
-/

namespace CodeMetrics.OrderedTable

variable {β : Type _}

/-! ## Writing one entry -/

theorem map_fst_put (key : String) (value : β) (es : List (String × β)) :
    (put key value es).map (·.1) =
      if key ∈ es.map (·.1) then es.map (·.1) else es.map (·.1) ++ [key] := by
  induction es with
  | nil => rfl
  | cons e rest ih =>
    rw [put]
    by_cases h : e.1 = key
    · rw [if_pos h, List.map_cons, List.map_cons, if_pos (h ▸ List.mem_cons_self), h]
    · rw [if_neg h, List.map_cons, List.map_cons, ih]
      by_cases hrest : key ∈ rest.map (·.1)
      · rw [if_pos hrest, if_pos (List.mem_cons_of_mem _ hrest)]
      · have hnot : key ∉ e.1 :: rest.map (·.1) := by
          intro hmem
          rcases List.mem_cons.mp hmem with he | hr
          · exact h he.symm
          · exact hrest hr
        rw [if_neg hrest, if_neg hnot, List.cons_append]

/-- A new key goes to the end; a known key keeps its place. -/
theorem keys_insert (t : OrderedTable β) (key : String) (value : β) :
    (t.insert key value).keys = if key ∈ t.keys then t.keys else t.keys ++ [key] :=
  map_fst_put key value t.entries

theorem nodup_keys_insert {t : OrderedTable β} (h : t.keys.Nodup) (key : String) (value : β) :
    (t.insert key value).keys.Nodup := by
  rw [keys_insert]
  by_cases hmem : key ∈ t.keys
  · rwa [if_pos hmem]
  · rw [if_neg hmem, List.nodup_append]
    refine ⟨h, List.nodup_singleton key, ?_⟩
    intro k hk k' hk' heq
    rw [List.mem_singleton.mp hk'] at heq
    exact hmem (heq ▸ hk)

theorem mem_put {key : String} {value : β} {es : List (String × β)} {e : String × β}
    (h : e ∈ put key value es) : e = (key, value) ∨ e ∈ es := by
  induction es with
  | nil => exact .inl (List.mem_singleton.mp h)
  | cons d rest ih =>
    rw [put] at h
    split at h
    · rcases List.mem_cons.mp h with hd | hrest
      · exact .inl hd
      · exact .inr (List.mem_cons_of_mem d hrest)
    · rcases List.mem_cons.mp h with rfl | hrest
      · exact .inr List.mem_cons_self
      · exact (ih hrest).imp_right (List.mem_cons_of_mem d)

/-! ## Writing a list of pairs -/

theorem ofList_append_singleton (pairs : List (String × β)) (p : String × β) :
    ofList (pairs ++ [p]) = (ofList pairs).insert p.1 p.2 := by
  rw [ofList, List.foldl_append]
  rfl

theorem eraseDups_append_singleton (names : List String) (name : String) :
    (names ++ [name]).eraseDups =
      if name ∈ names then names.eraseDups else names.eraseDups ++ [name] := by
  rw [List.eraseDups_append]
  by_cases h : name ∈ names
  · rw [if_pos h, List.removeAll, List.filter_cons_of_neg (by simpa using h), List.filter_nil,
      List.eraseDups_nil, List.append_nil]
  · rw [if_neg h, List.removeAll, List.filter_cons_of_pos (by simpa using h)]
    rfl

/-- Later names do not change which name is found first. -/
theorem find?_eraseDups (p : String → Bool) (names : List String) :
    names.eraseDups.find? p = names.find? p := by
  induction names using List.reverseRecOn with
  | nil => rfl
  | append_singleton names name ih =>
    rw [eraseDups_append_singleton]
    by_cases h : name ∈ names
    · rw [if_pos h, ih, List.find?_append]
      cases hfind : names.find? p with
      | some other => rfl
      | none =>
        -- a name that is there already is not what is looked for
        have hp : ¬ p name = true := List.find?_eq_none.mp hfind name h
        rw [List.find?_cons_of_neg hp]
        rfl
    · rw [if_neg h, List.find?_append, List.find?_append, ih]

/-- The keys stand in the order of their first pairs. -/
theorem keys_ofList (pairs : List (String × β)) :
    (ofList pairs).keys = (pairs.map (·.1)).eraseDups := by
  induction pairs using List.reverseRecOn with
  | nil => rfl
  | append_singleton pairs p ih =>
    rw [ofList_append_singleton, keys_insert, ih, List.map_append, List.map_singleton,
      eraseDups_append_singleton]
    simp only [List.mem_eraseDups]

theorem nodup_keys_ofList (pairs : List (String × β)) : (ofList pairs).keys.Nodup := by
  induction pairs using List.reverseRecOn with
  | nil => exact List.nodup_nil
  | append_singleton pairs p ih =>
    rw [ofList_append_singleton]
    exact nodup_keys_insert ih p.1 p.2

theorem nodup_eraseDups (names : List String) : names.eraseDups.Nodup := by
  have hkeys := nodup_keys_ofList (names.map (fun name => (name, ())))
  rwa [keys_ofList, List.map_map, Function.comp_def, List.map_id'] at hkeys

/-- Under a key stands the value of its last pair. -/
theorem get?_ofList (pairs : List (String × β)) (key : String) :
    (ofList pairs).get? key = ((pairs.filter (fun p => p.1 == key)).getLast?).map (·.2) := by
  induction pairs using List.reverseRecOn with
  | nil => rfl
  | append_singleton pairs p ih =>
    rw [ofList_append_singleton, get?_insert, ih, List.filter_append]
    by_cases h : key = p.1
    · have hlast : [p].filter (fun q => q.1 == key) = [p] := by simp [h]
      rw [if_pos h, hlast, List.getLast?_concat, Option.map_some]
    · have hnone : [p].filter (fun q => q.1 == key) = [] := by simp [Ne.symm h]
      rw [if_neg h, hnone, List.append_nil]

/-- Every entry comes from a pair. -/
theorem mem_of_mem_entries_ofList {pairs : List (String × β)} {e : String × β}
    (h : e ∈ (ofList pairs).entries) : e ∈ pairs := by
  induction pairs using List.reverseRecOn with
  | nil => exact absurd h List.not_mem_nil
  | append_singleton pairs p ih =>
    rw [ofList_append_singleton] at h
    rcases mem_put h with rfl | hold
    · exact List.mem_append_right _ List.mem_cons_self
    · exact List.mem_append_left _ (ih hold)

/-! ## Tables as keys and values -/

theorem get?_of_mem {t : OrderedTable β} (distinct : t.keys.Nodup) {e : String × β}
    (he : e ∈ t.entries) : t.get? e.1 = some e.2 := by
  unfold get?
  cases hfind : t.entries.find? (fun d => d.1 == e.1) with
  | none => exact absurd (beq_self_eq_true e.1) (List.find?_eq_none.mp hfind e he)
  | some d =>
    have hkey : d.1 = e.1 := by simpa using List.find?_some hfind
    have hsame : d = e :=
      List.inj_on_of_nodup_map distinct (List.mem_of_find?_eq_some hfind) he hkey
    rw [hsame, Option.map_some]

theorem mem_of_get? {t : OrderedTable β} {key : String} {value : β}
    (h : t.get? key = some value) : (key, value) ∈ t.entries := by
  unfold get? at h
  obtain ⟨e, hfind, rfl⟩ := Option.map_eq_some_iff.mp h
  have hkey : e.1 = key := by simpa using List.find?_some hfind
  rw [← hkey]
  exact List.mem_of_find?_eq_some hfind

theorem get?_eq_none {t : OrderedTable β} {key : String} (h : key ∉ t.keys) :
    t.get? key = none := by
  unfold get?
  rw [Option.map_eq_none_iff, List.find?_eq_none]
  intro e he hkey
  exact h (beq_iff_eq.mp hkey ▸ List.mem_map_of_mem he)

/-- A table without doubled keys is known by its keys in order and the values under them. -/
theorem ext_of_keys_of_get? {t u : OrderedTable β} (distinct : t.keys.Nodup)
    (hkeys : t.keys = u.keys) (hvalues : ∀ key, t.get? key = u.get? key) : t = u := by
  have read : ∀ v : OrderedTable β, v.keys.Nodup →
      v.entries.map (fun e => (e.1, some e.2)) = v.keys.map (fun key => (key, v.get? key)) := by
    intro v hv
    rw [keys, List.map_map]
    refine List.map_congr_left ?_
    intro e he
    rw [Function.comp_apply, get?_of_mem hv he]
  have hinj : Function.Injective (fun e : String × β => (e.1, some e.2)) := by
    rintro ⟨k, v⟩ ⟨k', v'⟩ h
    simpa using h
  have hentries : t.entries = u.entries := by
    refine List.map_injective_iff.mpr hinj ?_
    rw [read t distinct, read u (hkeys ▸ distinct), hkeys]
    exact List.map_congr_left fun key _ => by rw [hvalues key]
  cases t
  cases u
  exact congrArg OrderedTable.mk hentries

/-! ## Taking entries out -/

theorem nodup_keys_filter {t : OrderedTable β} (h : t.keys.Nodup) (p : String × β → Bool) :
    (OrderedTable.mk (t.entries.filter p)).keys.Nodup :=
  h.sublist (List.filter_sublist.map _)

theorem keys_erase (t : OrderedTable β) (key : String) :
    (t.erase key).keys = t.keys.filter (· != key) := by
  unfold erase keys
  rw [List.filter_map]
  rfl

/-- Without doubled keys, the entries with a value of some sort are those of the keys that have
one. -/
theorem keys_filter {t : OrderedTable β} (distinct : t.keys.Nodup) (p : β → Bool) :
    (OrderedTable.mk (t.entries.filter (fun e => p e.2))).keys =
      t.keys.filter (fun key => (t.get? key).any p) := by
  have hentries : t.entries.filter (fun e => p e.2) =
      t.entries.filter ((fun key => (t.get? key).any p) ∘ Prod.fst) := by
    refine List.filter_congr fun e he => ?_
    rw [Function.comp_apply, get?_of_mem distinct he, Option.any_some]
  unfold keys
  rw [hentries, List.filter_map]

theorem get?_erase (t : OrderedTable β) (key other : String) :
    (t.erase key).get? other = if other = key then none else t.get? other := by
  unfold erase get?
  rw [List.find?_filter]
  by_cases h : other = key
  · rw [if_pos h, Option.map_eq_none_iff, List.find?_eq_none]
    intro e _
    simp [h]
  · rw [if_neg h]
    congr 2
    funext e
    by_cases he : e.1 = other <;> simp [he, h]

/-- Without doubled keys, leaving out entries by their values leaves out values. -/
theorem get?_filter {t : OrderedTable β} (distinct : t.keys.Nodup) (p : β → Bool) (key : String) :
    (OrderedTable.mk (t.entries.filter (fun e => p e.2))).get? key = (t.get? key).filter p := by
  by_cases hkey : key ∈ t.keys
  · obtain ⟨e, he, rfl⟩ := List.mem_map.mp hkey
    rw [get?_of_mem distinct he]
    by_cases hp : p e.2
    · have hmem : e ∈ t.entries.filter (fun e => p e.2) := List.mem_filter.mpr ⟨he, hp⟩
      rw [get?_of_mem (nodup_keys_filter distinct _) hmem, Option.filter_some_pos hp]
    · rw [Option.filter_some_neg (by simpa using hp)]
      refine get?_eq_none ?_
      intro hmem
      obtain ⟨d, hd, hsame⟩ := List.mem_map.mp hmem
      obtain ⟨hdt, hpd⟩ := List.mem_filter.mp hd
      rw [List.inj_on_of_nodup_map distinct hdt he hsame] at hpd
      exact hp hpd
  · have hnot : key ∉ (OrderedTable.mk (t.entries.filter (fun e => p e.2))).keys := by
      intro hmem
      obtain ⟨d, hd, hsame⟩ := List.mem_map.mp hmem
      exact hkey (hsame ▸ List.mem_map_of_mem (List.mem_filter.mp hd).1)
    rw [get?_eq_none hnot, get?_eq_none hkey, Option.filter_none]

/-! ## Overriding one table by another -/

/-- Known keys keep their places, and new keys go to the end in the order of the second table. -/
theorem keys_update (t : OrderedTable β) {u : OrderedTable β} (distinct : u.keys.Nodup) :
    (t.update u).keys = t.keys ++ u.keys.filter (· ∉ t.keys) := by
  obtain ⟨es⟩ := u
  unfold update keys at *
  induction es generalizing t with
  | nil => exact (List.append_nil _).symm
  | cons e rest ih =>
    obtain ⟨hhead, hrest⟩ := List.nodup_cons.mp distinct
    have hinsert := keys_insert t e.1 e.2
    unfold keys at hinsert
    rw [List.foldl_cons, ih (t.insert e.1 e.2) hrest, hinsert, List.map_cons]
    by_cases hmem : e.1 ∈ t.entries.map (·.1)
    · rw [if_pos hmem, List.filter_cons_of_neg (by simpa using hmem)]
    · rw [if_neg hmem, List.filter_cons_of_pos (by simpa using hmem), List.append_assoc,
        List.singleton_append]
      congr 2
      refine List.filter_congr ?_
      intro key hkey
      have hne : key ≠ e.1 := by
        rintro rfl
        exact hhead hkey
      simp [hne]

theorem keys_update_congr {t t' u u' : OrderedTable β} (distinct : u.keys.Nodup)
    (ht : t'.keys = t.keys) (hu : u'.keys = u.keys) :
    (t'.update u').keys = (t.update u).keys := by
  rw [keys_update t distinct, keys_update t' (hu ▸ distinct), ht, hu]

/-- The second table decides on its keys, and the first on all others. -/
theorem get?_update (t : OrderedTable β) {u : OrderedTable β} (distinct : u.keys.Nodup)
    (key : String) : (t.update u).get? key = (u.get? key).or (t.get? key) := by
  obtain ⟨es⟩ := u
  unfold update
  induction es generalizing t with
  | nil => rfl
  | cons e rest ih =>
    obtain ⟨hhead, hrest⟩ := List.nodup_cons.mp distinct
    rw [List.foldl_cons, ih (t.insert e.1 e.2) hrest, get?_insert]
    by_cases hkey : key = e.1
    · have hnot : key ∉ (OrderedTable.mk rest).keys := by
        rw [hkey]
        exact hhead
      rw [if_pos hkey, get?_eq_none hnot, Option.none_or, hkey]
      simp [get?]
    · have hskip : (OrderedTable.mk (e :: rest)).get? key = (OrderedTable.mk rest).get? key := by
        unfold get?
        rw [List.find?_cons_of_neg (by simpa using Ne.symm hkey)]
      rw [if_neg hkey, hskip]

theorem eraseDups_append_eq_filter (xs ys : List String) :
    (xs ++ ys).eraseDups = xs.eraseDups ++ ys.eraseDups.filter (· ∉ xs.eraseDups) := by
  induction ys using List.reverseRecOn with
  | nil => simp
  | append_singleton ys y ih =>
    rw [← List.append_assoc, eraseDups_append_singleton, eraseDups_append_singleton, ih]
    by_cases hy : y ∈ ys
    · rw [if_pos (List.mem_append_right _ hy), if_pos hy]
    · by_cases hx : y ∈ xs
      · simp [hx, hy]
      · simp [hx, hy, List.append_assoc]

/-- Writing two lists of pairs one after the other overrides the table of the first by that of the
second. -/
theorem ofList_append (ps qs : List (String × β)) :
    ofList (ps ++ qs) = (ofList ps).update (ofList qs) := by
  refine ext_of_keys_of_get? (nodup_keys_ofList _) ?_ ?_
  · rw [keys_update _ (nodup_keys_ofList qs), keys_ofList, keys_ofList, keys_ofList,
      List.map_append, eraseDups_append_eq_filter]
  · intro key
    rw [get?_update _ (nodup_keys_ofList qs), get?_ofList, get?_ofList, get?_ofList,
      List.filter_append, List.getLast?_append, Option.map_or]

end CodeMetrics.OrderedTable
