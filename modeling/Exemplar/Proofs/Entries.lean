/-
A disk as a finite map from keys to entries.

Every change of a disk is one of three: an entry is put under a key, erased, or
moved with all that is below it.  Each has one lemma that says what is found
under any key afterwards, so nothing later looks at the list of entries.  `Sound`
is what holds of the entries of a disk that was only ever changed by requests:
keys are distinct and made of plain names, and what has an entry below it is a
directory.
-/
import Exemplar.Files.Disk
import Exemplar.Proofs.Paths
import Mathlib.Data.List.Nodup

namespace Exemplar
namespace Disk

variable {d : Disk} {key source target : Key} {entry : Entry}

instance (found : Option Entry) : Decidable (found = some .directory) :=
  match found with
  | none => .isFalse fun h => nomatch h
  | some .directory => .isTrue rfl
  | some (.file _) => .isFalse fun h => nomatch h

instance (found : Option Entry) : Decidable (∀ bytes, found ≠ some (.file bytes)) :=
  match found with
  | none => .isTrue fun _ h => nomatch h
  | some .directory => .isTrue fun _ h => nomatch h
  | some (.file bytes) => .isFalse fun h => h bytes rfl

theorem get?_root (d : Disk) : d.get? [] = some .directory := rfl

theorem get?_of_ne (h : key ≠ []) : d.get? key = d.entries.lookup key := if_neg h

/-! ## What is found after a change -/

theorem lookup_cons_of_ne {k k' : Key} (h : k ≠ k') (entries : List (Key × Entry)) :
    ((k', entry) :: entries).lookup k = entries.lookup k := by
  rw [List.lookup_cons, beq_eq_false_iff_ne.2 h]

theorem lookup_map_replace (entries : List (Key × Entry)) (k : Key) :
    (entries.map fun e => if e.1 = key then (key, entry) else e).lookup k =
      if k = key ∧ entries.any (·.1 = key) then some entry else entries.lookup k := by
  induction entries with
  | nil => simp
  | cons e rest ih =>
    obtain ⟨k', old⟩ := e
    rw [List.map_cons]
    by_cases hk' : k' = key
    · subst hk'
      by_cases hk : k = k'
      · simp [hk]
      · simp [hk, ih, lookup_cons_of_ne hk]
    · by_cases hk : k = k'
      · simp [hk, hk']
      · rw [if_neg hk', lookup_cons_of_ne hk, lookup_cons_of_ne hk, ih, List.any_cons,
          decide_eq_false hk', Bool.false_or]

theorem get?_put (h : key ≠ []) (k : Key) :
    (d.put key entry).get? k = if k = key then some entry else d.get? k := by
  by_cases hk : k = []
  · have : k ≠ key := hk ▸ h.symm
    rw [if_neg this, hk, get?_root, get?_root]
  · rw [get?_of_ne hk, get?_of_ne hk, put]
    by_cases hany : d.entries.any (·.1 = key) = true
    · rw [if_pos hany, lookup_map_replace]
      simp [hany]
    · rw [if_neg hany, List.lookup_append]
      have hnone : d.entries.lookup key = none := by
        rw [List.lookup_eq_none_iff]
        intro e he
        rw [bne_iff_ne]
        rintro rfl
        exact hany (List.any_eq_true.2 ⟨e, he, by simp⟩)
      by_cases hkey : k = key
      · simp [hkey, hnone]
      · simp [hkey, lookup_cons_of_ne hkey]

theorem lookup_filter_ne (entries : List (Key × Entry)) (k : Key) :
    (entries.filter (·.1 ≠ key)).lookup k = if k = key then none else entries.lookup k := by
  induction entries with
  | nil => simp
  | cons e rest ih =>
    obtain ⟨k', old⟩ := e
    by_cases hk' : k' = key
    · subst hk'
      rw [List.filter_cons_of_neg (by simp), ih]
      by_cases hk : k = k'
      · simp [hk]
      · simp [hk, lookup_cons_of_ne hk]
    · rw [List.filter_cons_of_pos (by simpa using hk')]
      by_cases hk : k = k'
      · simp [hk, hk']
      · rw [lookup_cons_of_ne hk, lookup_cons_of_ne hk, ih]

theorem get?_erase (h : key ≠ []) (k : Key) :
    (d.erase key).get? k = if k = key then none else d.get? k := by
  by_cases hk : k = []
  · have : k ≠ key := hk ▸ h.symm
    rw [if_neg this, hk, get?_root, get?_root]
  · rw [get?_of_ne hk, get?_of_ne hk]
    exact lookup_filter_ne d.entries k

/-- The key that an entry has after a move. -/
def movedKey (source target k : Key) : Key :=
  if source.isPrefixOf k then target ++ k.drop source.length else k

theorem movedKey_below (rest : Key) : movedKey source target (source ++ rest) = target ++ rest := by
  simp [movedKey]

theorem movedKey_other {k : Key} (h : ¬ source <+: k) : movedKey source target k = k := by
  simp [movedKey, h]

theorem move_entries (d : Disk) (source target : Key) :
    (d.move source target).entries =
      (d.entries.filter (·.1 ≠ target)).map fun e => (movedKey source target e.1, e.2) := by
  refine congrArg (List.map · _) (funext fun e => ?_)
  simp only [movedKey]
  split <;> rfl

/-- Where an entry came from that is found under a key after a move. -/
def originOf (source target k : Key) : Option Key :=
  if target <+: k then some (source ++ k.drop target.length)
  else if source <+: k then none
  else some k

theorem originOf_below (rest : Key) :
    originOf source target (target ++ rest) = some (source ++ rest) := by
  simp [originOf]

/-- Under the keys that a move vacates nothing is found, and the others keep their entries. -/
theorem originOf_other {k : Key} (h : ¬ target <+: k) :
    originOf source target k = if source <+: k then none else some k := if_neg h

/-- An entry is found under the key that it has moved to, if there was nothing below the target. -/
theorem movedKey_eq_iff {k k' : Key} (hk' : target <+: k' → k' = target) (hne : k' ≠ target) :
    movedKey source target k' = k ↔ originOf source target k = some k' := by
  have houtside : ¬ target <+: k' := fun h => hne (hk' h)
  by_cases hsk' : source <+: k'
  · obtain ⟨rest, rfl⟩ := hsk'
    rw [movedKey_below]
    constructor
    · rintro rfl
      exact originOf_below rest
    · intro h
      simp only [originOf] at h
      split at h
      · rename_i htk
        obtain ⟨after, rfl⟩ := htk
        simp_all
      · split at h
        · cases h
        · rename_i hsk
          exact absurd (by rw [Option.some.inj h]; exact List.prefix_append ..) hsk
  · rw [movedKey_other hsk']
    constructor
    · rintro rfl
      rw [originOf_other houtside, if_neg hsk']
    · intro h
      simp only [originOf] at h
      split at h
      · exact absurd (by rw [← Option.some.inj h]; exact List.prefix_append ..) hsk'
      · split at h
        · cases h
        · exact (Option.some.inj h).symm

theorem lookup_moved (hst : ¬ source <+: target) (hts : ¬ target <+: source)
    {entries : List (Key × Entry)} (hbelow : ∀ e ∈ entries, target <+: e.1 → e.1 = target)
    (k : Key) :
    ((entries.filter (·.1 ≠ target)).map fun e => (movedKey source target e.1, e.2)).lookup k =
      (originOf source target k).bind fun origin => entries.lookup origin := by
  induction entries with
  | nil => cases originOf source target k <;> simp
  | cons e rest ih =>
    obtain ⟨k', old⟩ := e
    obtain ⟨hk', hrest⟩ := List.forall_mem_cons.1 hbelow
    have ih := ih hrest
    have htarget : originOf source target k ≠ some target := by
      intro h
      simp only [originOf] at h
      split at h
      · exact hst (by rw [← Option.some.inj h]; exact List.prefix_append ..)
      · split at h
        · cases h
        · rename_i htk _
          exact htk (Option.some.inj h ▸ List.prefix_refl _)
    by_cases hne : k' = target
    · subst hne
      rw [List.filter_cons_of_neg (by simp), ih]
      cases horigin : originOf source k' k with
      | none => rfl
      | some origin =>
        have : origin ≠ k' := fun h => htarget (h ▸ horigin)
        rw [Option.bind_some, Option.bind_some, lookup_cons_of_ne this]
    · rw [List.filter_cons_of_pos (by simpa using hne), List.map_cons]
      have hiff : movedKey source target k' = k ↔ originOf source target k = some k' :=
        movedKey_eq_iff hk' hne
      by_cases hk : originOf source target k = some k'
      · simp [hk, hiff.2 hk]
      · have hmoved : k ≠ movedKey source target k' := fun h => hk (hiff.1 h.symm)
        rw [lookup_cons_of_ne hmoved, ih]
        cases horigin : originOf source target k with
        | none => rfl
        | some origin =>
          have : origin ≠ k' := fun h => hk (h ▸ horigin)
          rw [Option.bind_some, Option.bind_some, lookup_cons_of_ne this]

theorem get?_move (hst : ¬ source <+: target) (hts : ¬ target <+: source)
    (hbelow : ∀ e ∈ d.entries, target <+: e.1 → e.1 = target) (k : Key) :
    (d.move source target).get? k = (originOf source target k).bind d.get? := by
  have hsource : source ≠ [] := fun h => hst (h ▸ List.nil_prefix)
  have htarget : target ≠ [] := fun h => hts (h ▸ List.nil_prefix)
  by_cases hk : k = []
  · subst hk
    simp [originOf, hsource, htarget, get?_root]
  · rw [get?_of_ne hk, move_entries, lookup_moved hst hts hbelow]
    cases horigin : originOf source target k with
    | none => rfl
    | some origin =>
      have : origin ≠ [] := by
        rintro rfl
        simp only [originOf] at horigin
        split at horigin
        · simp [hsource] at horigin
        · split at horigin <;> simp_all
      rw [Option.bind_some, Option.bind_some, get?_of_ne this]

/-! ## Sound disks -/

/-- What holds of every disk that requests have made. -/
structure Sound (d : Disk) : Prop where
  distinct : (d.entries.map (·.1)).Nodup
  ne_root : ∀ e ∈ d.entries, e.1 ≠ []
  plain : ∀ e ∈ d.entries, ∀ name ∈ e.1, Path.IsPlain name
  parent : ∀ key name, d.get? (key ++ [name]) ≠ none → d.get? key = some .directory
  home : ∀ name ∈ d.workingDirectory, Path.IsPlain name

namespace Sound

theorem mem_iff (h : d.Sound) (hkey : key ≠ []) :
    (key, entry) ∈ d.entries ↔ d.get? key = some entry := by
  rw [get?_of_ne hkey]
  have hdistinct := h.distinct
  generalize d.entries = entries at hdistinct
  induction entries with
  | nil => simp
  | cons e rest ih =>
    obtain ⟨k, first⟩ := e
    rw [List.map_cons, List.nodup_cons] at hdistinct
    by_cases hk : key = k
    · subst hk
      have : (key, entry) ∉ rest := fun hmem =>
        hdistinct.1 (List.mem_map.2 ⟨_, hmem, rfl⟩)
      simp [this, eq_comm]
    · rw [lookup_cons_of_ne hk]
      refine Iff.trans ?_ (ih hdistinct.2)
      simp [hk]

theorem plain_of_get? (h : d.Sound) (hkey : d.get? key ≠ none) :
    ∀ name ∈ key, Path.IsPlain name := by
  by_cases hnil : key = []
  · simp [hnil]
  · obtain ⟨entry, hentry⟩ := Option.ne_none_iff_exists'.1 hkey
    exact h.plain _ ((h.mem_iff hnil).2 hentry)

/-- What has an entry below it is a directory. -/
theorem directory_above (h : d.Sound) {rest : List String} (hrest : rest ≠ [])
    (hkey : d.get? (key ++ rest) ≠ none) : d.get? key = some .directory := by
  induction rest generalizing key with
  | nil => exact absurd rfl hrest
  | cons name more ih =>
    rw [List.append_cons] at hkey
    by_cases hmore : more = []
    · subst hmore
      rw [List.append_nil] at hkey
      exact h.parent _ _ hkey
    · exact h.parent _ name (by rw [ih hmore hkey]; simp)

/-- Above a directory there is a directory, the root being above itself. -/
theorem directory_dropLast (h : d.Sound) (hkey : d.get? key = some .directory) :
    d.get? key.dropLast = some .directory := by
  rcases List.eq_nil_or_concat key with rfl | ⟨front, last, rfl⟩
  · exact hkey
  · rw [List.concat_eq_append] at hkey ⊢
    rw [List.dropLast_concat]
    exact h.directory_above (List.cons_ne_nil last []) (by rw [hkey]; simp)

/-- Below nothing there is nothing. -/
theorem none_below (h : d.Sound) (hkey : d.get? key = none) (rest : List String) :
    d.get? (key ++ rest) = none := by
  by_cases hrest : rest = []
  · rw [hrest, List.append_nil, hkey]
  · by_contra hsome
    rw [h.directory_above hrest hsome] at hkey
    cases hkey

/-- Below a file there is nothing. -/
theorem none_below_file (h : d.Sound) {bytes : ByteArray} (hkey : d.get? key = some (.file bytes))
    {rest : List String} (hrest : rest ≠ []) : d.get? (key ++ rest) = none := by
  by_contra hsome
  rw [h.directory_above hrest hsome] at hkey
  cases hkey

theorem mem_below_iff (h : d.Sound) {names : List String} :
    (names, entry) ∈ d.below key ↔ names ≠ [] ∧ d.get? (key ++ names) = some entry := by
  have hmem : (names, entry) ∈ d.below key ↔ names ≠ [] ∧ (key ++ names, entry) ∈ d.entries := by
    simp only [below, List.mem_filterMap, Option.ite_none_right_eq_some, Bool.and_eq_true,
      List.isPrefixOf_iff_prefix, decide_eq_true_eq, Option.some.injEq, Prod.mk.injEq]
    constructor
    · rintro ⟨⟨k, e⟩, hk, ⟨⟨rest, rfl⟩, hlength⟩, rfl, rfl⟩
      simp only [List.drop_left]
      exact ⟨by rintro rfl; simp at hlength, hk⟩
    · rintro ⟨hnames, hk⟩
      refine ⟨_, hk, ⟨List.prefix_append .., ?_⟩, List.drop_left, rfl⟩
      simpa [List.length_pos_iff] using hnames
  rw [hmem]
  refine and_congr_right fun hnames => h.mem_iff ?_
  simp [hnames]

/-- What is below a key is listed once. -/
theorem nodup_below (h : d.Sound) (key : Key) : ((d.below key).map (·.1)).Nodup := by
  let nameOf (k : Key) : Option (List String) :=
    if key.isPrefixOf k && key.length < k.length then some (k.drop key.length) else none
  have hnames : (d.below key).map (·.1) = (d.entries.map (·.1)).filterMap nameOf := by
    rw [below, List.map_filterMap, List.filterMap_map]
    refine List.filterMap_congr fun e _ => ?_
    simp only [Function.comp_apply, nameOf]
    split <;> rfl
  rw [hnames]
  refine h.distinct.filterMap fun k k' names hk hk' => ?_
  simp only [nameOf, Option.mem_def, Option.ite_none_right_eq_some, Bool.and_eq_true,
    List.isPrefixOf_iff_prefix, Option.some.injEq] at hk hk'
  obtain ⟨⟨⟨rest, rfl⟩, -⟩, rfl⟩ := hk
  obtain ⟨⟨⟨rest', rfl⟩, -⟩, heq⟩ := hk'
  simp only [List.drop_left] at heq
  rw [heq]

/-- The list of what is below a directory is empty if nothing is found below it. -/
theorem below_eq_nil_iff (h : d.Sound) :
    d.below key = [] ↔ ∀ rest, rest ≠ [] → d.get? (key ++ rest) = none := by
  constructor
  · intro hnil rest hrest
    by_contra hsome
    obtain ⟨entry, hentry⟩ := Option.ne_none_iff_exists'.1 hsome
    have := h.mem_below_iff.2 ⟨hrest, hentry⟩
    simp [hnil] at this
  · intro hnone
    refine List.eq_nil_iff_forall_not_mem.2 fun e hmem => ?_
    obtain ⟨hrest, hentry⟩ := h.mem_below_iff.1 hmem
    rw [hnone _ hrest] at hentry
    cases hentry

/-! ## Changes keep a disk sound -/

theorem put (h : d.Sound) {name : String} (hname : Path.IsPlain name)
    (hkey : d.get? key = some .directory)
    (hentry : d.get? (key ++ [name]) = some .directory → entry = .directory) :
    (d.put (key ++ [name]) entry).Sound := by
  have hget (k : Key) : (d.put (key ++ [name]) entry).get? k
      = if k = key ++ [name] then some entry else d.get? k := get?_put (by simp) k
  have hplain : ∀ n ∈ key ++ [name], Path.IsPlain n := by
    intro n hn
    rcases List.mem_append.1 hn with hn | hn
    · exact h.plain_of_get? (by rw [hkey]; simp) n hn
    · rw [List.mem_singleton.1 hn]; exact hname
  have hmem : ∀ e ∈ (d.put (key ++ [name]) entry).entries,
      e.1 = key ++ [name] ∨ e ∈ d.entries := by
    intro e he
    simp only [Disk.put] at he
    split at he
    · obtain ⟨e', he', rfl⟩ := List.mem_map.1 he
      split
      · exact .inl rfl
      · exact .inr he'
    · rcases List.mem_append.1 he with he | he
      · exact .inr he
      · exact .inl (by rw [List.mem_singleton.1 he])
  refine ⟨?_, ?_, ?_, ?_, ?_⟩
  · simp only [Disk.put]
    split
    · have : (d.entries.map fun e => if e.1 = key ++ [name] then (key ++ [name], entry) else e).map
          (·.1) = d.entries.map (·.1) := by
        rw [List.map_map]
        refine List.map_congr_left fun e _ => ?_
        by_cases he : e.1 = key ++ [name] <;> simp [he]
      exact this ▸ h.distinct
    · rename_i hany
      rw [List.map_append, List.nodup_append]
      refine ⟨h.distinct, by simp, ?_⟩
      simp only [List.any_eq_true, decide_eq_true_eq, not_exists, not_and] at hany
      simp only [List.map_cons, List.map_nil, List.mem_singleton, forall_eq, List.mem_map,
        forall_exists_index, and_imp]
      rintro k e he rfl
      exact hany e he
  · intro e he
    rcases hmem e he with he | he
    · simp [he]
    · exact h.ne_root e he
  · intro e he
    rcases hmem e he with he | he
    · exact he ▸ hplain
    · exact h.plain e he
  · intro k n hk
    rw [hget] at hk ⊢
    by_cases heq : k ++ [n] = key ++ [name]
    · obtain ⟨rfl, -⟩ := List.append_inj' heq rfl
      rw [if_neg (by simp), hkey]
    · rw [if_neg heq] at hk
      by_cases hkk : k = key ++ [name]
      · rw [if_pos hkk, hentry (hkk ▸ h.parent k n hk)]
      · rw [if_neg hkk]
        exact h.parent k n hk
  · simp only [Disk.put]
    split <;> exact h.home

theorem erase (h : d.Sound) (hkey : key ≠ [])
    (hbelow : ∀ name, d.get? (key ++ [name]) = none) : (d.erase key).Sound := by
  have hget := get?_erase (d := d) hkey
  refine ⟨h.distinct.sublist (List.filter_sublist.map _), ?_, ?_, ?_, h.home⟩
  · exact fun e he => h.ne_root e (List.mem_filter.1 he).1
  · exact fun e he => h.plain e (List.mem_filter.1 he).1
  · intro k n hk
    rw [hget] at hk ⊢
    split at hk
    · exact absurd rfl hk
    · by_cases hkk : k = key
      · exact absurd (hkk ▸ hbelow n) hk
      · rw [if_neg hkk]
        exact h.parent k n hk

theorem move (h : d.Sound) {parent : Key} {name : String} (hname : Path.IsPlain name)
    (hparent : d.get? parent = some .directory) (hst : ¬ source <+: parent ++ [name])
    (hts : ¬ parent ++ [name] <+: source)
    (hbelow : ∀ rest, rest ≠ [] → d.get? (parent ++ [name] ++ rest) = none) :
    (d.move source (parent ++ [name])).Sound := by
  have hentries : ∀ e ∈ d.entries, parent ++ [name] <+: e.1 → e.1 = parent ++ [name] := by
    rintro ⟨k, e⟩ he ⟨rest, rfl⟩
    by_contra hne
    have hrest : rest ≠ [] := by rintro rfl; simp at hne
    have := (h.mem_iff (by simp)).1 he
    rw [hbelow rest hrest] at this
    cases this
  have hget := get?_move hst hts hentries
  have hmoved : ∀ e ∈ d.entries, ∀ n ∈ movedKey source (parent ++ [name]) e.1,
      Path.IsPlain n := by
    intro e he n hn
    simp only [movedKey] at hn
    split at hn
    · rcases List.mem_append.1 hn with hn | hn
      · rcases List.mem_append.1 hn with hn | hn
        · exact h.plain_of_get? (by rw [hparent]; simp) n hn
        · rw [List.mem_singleton.1 hn]; exact hname
      · exact h.plain e he n (List.mem_of_mem_drop hn)
    · exact h.plain e he n hn
  refine ⟨?_, ?_, ?_, ?_, h.home⟩
  · rw [move_entries, List.map_map]
    have hfilter := (h.distinct.sublist
      ((List.filter_sublist (p := (·.1 ≠ parent ++ [name])) (l := d.entries)).map (·.1)))
    rw [List.Nodup, List.pairwise_map] at hfilter ⊢
    refine hfilter.imp_of_mem ?_
    intro a b ha hb hab heq
    obtain ⟨ha, hta⟩ := List.mem_filter.1 ha
    obtain ⟨hb, htb⟩ := List.mem_filter.1 hb
    simp only [decide_not, Bool.not_eq_eq_eq_not, Bool.not_true, decide_eq_false_iff_not]
      at hta htb
    have horigin := (movedKey_eq_iff (hentries a ha) hta).1 heq
    have horigin' : originOf source (parent ++ [name]) (movedKey source (parent ++ [name]) b.1)
        = some b.1 := (movedKey_eq_iff (hentries b hb) htb).1 rfl
    simp only [Function.comp_apply] at horigin
    rw [horigin'] at horigin
    exact hab (Option.some.inj horigin).symm
  · intro e he
    rw [move_entries] at he
    obtain ⟨e', he', rfl⟩ := List.mem_map.1 he
    have hroot := h.ne_root e' (List.mem_filter.1 he').1
    simp only [movedKey]
    split <;> simp [hroot]
  · intro e he
    rw [move_entries] at he
    obtain ⟨e', he', rfl⟩ := List.mem_map.1 he
    exact hmoved e' (List.mem_filter.1 he').1
  · intro k n hk
    rw [hget] at hk ⊢
    by_cases htk : parent ++ [name] <+: k
    · obtain ⟨rest, rfl⟩ := htk
      rw [List.append_assoc, originOf_below, Option.bind_some] at hk
      rw [originOf_below, Option.bind_some]
      exact h.parent _ n (by rwa [List.append_assoc])
    · by_cases hkn : parent ++ [name] <+: k ++ [n]
      · have heq : parent ++ [name] = k ++ [n] := by
          rcases List.prefix_concat_iff.1 hkn with heq | hpre
          · exact heq
          · exact absurd hpre htk
        obtain ⟨rfl, -⟩ := List.append_inj' heq rfl
        have hsk : ¬ source <+: parent := fun hpre =>
          hst (hpre.trans (List.prefix_append ..))
        rw [originOf_other htk, if_neg hsk, Option.bind_some, hparent]
      · rw [originOf_other hkn] at hk
        split at hk
        · exact absurd rfl hk
        · rename_i hsk
          have hsk' : ¬ source <+: k := fun hpre => hsk (hpre.trans (List.prefix_append ..))
          rw [originOf_other htk, if_neg hsk', Option.bind_some]
          exact h.parent k n hk

end Sound
end Disk
end Exemplar
