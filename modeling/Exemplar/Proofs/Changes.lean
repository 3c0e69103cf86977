/-
What a request that succeeds changes.

Each of the changing requests has one lemma that says what must have been on the
disk and what is there afterwards.  `Confined` is the shape in which a program
keeps such facts: outside some keys nothing has changed, except that directories
may have come to be where there was nothing.
-/
import Exemplar.Proofs.Walks

namespace Exemplar
namespace Disk

variable {d d' d'' : Disk} {path : Path} {key : Key} {entry : Entry}

/-! ## Requests that succeed -/

theorem makeDirectory_ok (h : d.makeDirectory path = .ok d') :
    ∃ parent name, d.Names path parent name ∧ d.AreDirectories (d.parentTrail path) ∧
      d.get? (parent ++ [name]) = none ∧ d' = d.put (parent ++ [name]) .directory := by
  simp only [makeDirectory, bind, Except.bind] at h
  split at h
  · cases h
  · rename_i key hkey
    obtain ⟨parent, name, rfl, hnames, htrail⟩ := resolveName_ok hkey
    split at h
    · cases h
    · rename_i hnone
      cases h
      exact ⟨parent, name, hnames, htrail, by simpa using hnone, rfl⟩

theorem write_ok {bytes : ByteArray} (h : d.write path bytes = .ok d') :
    ∃ parent name, d.Names path parent name ∧ d.AreDirectories (d.parentTrail path) ∧
      d.get? (parent ++ [name]) ≠ some .directory ∧ path.endsInSlash = false ∧
      d' = d.put (parent ++ [name]) (.file bytes) := by
  simp only [write, bind, Except.bind] at h
  split at h
  · cases h
  · rename_i key hkey
    obtain ⟨parent, name, rfl, hnames, htrail⟩ := resolveName_ok hkey
    split at h
    · cases h
    · rename_i hslash
      split at h
      · cases h
      · rename_i hentry
        cases h
        exact ⟨parent, name, hnames, htrail, hentry, by simpa using hslash, rfl⟩

theorem removeFile_ok (h : d.removeFile path = .ok d') :
    ∃ parent name bytes, d.Names path parent name ∧
      d.get? (parent ++ [name]) = some (.file bytes) ∧ d' = d.erase (parent ++ [name]) := by
  simp only [removeFile, bind, Except.bind] at h
  split at h
  · cases h
  · rename_i key hkey
    obtain ⟨parent, name, rfl, hnames, -⟩ := resolveName_ok hkey
    split at h
    · cases h
    · cases h
    · rename_i bytes hbytes
      split at h
      · cases h
      · cases h
        exact ⟨parent, name, bytes, hnames, hbytes, rfl⟩

theorem removeDirectory_ok (h : d.removeDirectory path = .ok d') :
    ∃ parent name, d.Names path parent name ∧ d.get? (parent ++ [name]) = some .directory ∧
      d.below (parent ++ [name]) = [] ∧ d' = d.erase (parent ++ [name]) := by
  simp only [removeDirectory, bind, Except.bind] at h
  split at h
  · cases h
  · rename_i key hkey
    obtain ⟨parent, name, rfl, hnames, -⟩ := resolveName_ok hkey
    split at h
    · cases h
    · cases h
    · rename_i hdirectory
      split at h
      · rename_i hempty
        cases h
        exact ⟨parent, name, hnames, hdirectory, List.isEmpty_iff.1 hempty, rfl⟩
      · cases h

/-- Where the way is open, nothing is missed in making a directory. -/
theorem makeDirectory_ne_notFound (hne : path.text ≠ "")
    (htrail : d.AreDirectories (d.parentTrail path)) :
    d.makeDirectory path ≠ .error .notFound := by
  intro h
  have hname := resolveName_ne_notFound hne htrail (fun _ => .alreadyExists) (by simp)
  simp only [makeDirectory, bind, Except.bind] at h
  split at h
  · rename_i error herror
    rw [Except.error.inj h] at herror
    exact hname herror
  · split at h <;> cases h

/-- Where the way is open, a directory that is not found for removal is not there. -/
theorem removeDirectory_notFound (hne : path.text ≠ "")
    (htrail : d.AreDirectories (d.parentTrail path))
    (h : d.removeDirectory path = .error .notFound) :
    d.get? (path.key d.workingDirectory) = none := by
  have hname := resolveName_ne_notFound hne htrail unnamed
    fun c => by cases c <;> simp [unnamed]
  simp only [removeDirectory, bind, Except.bind] at h
  split at h
  · rename_i error herror
    rw [Except.error.inj h] at herror
    exact absurd herror hname
  · rename_i key hkey
    obtain ⟨parent, name, rfl, hnames, -⟩ := resolveName_ok hkey
    rw [hnames.key_eq]
    split at h
    · assumption
    · cases h
    · split at h <;> cases h

theorem removeFile_notFound (hne : path.text ≠ "") (htrail : d.AreDirectories (d.parentTrail path))
    (h : d.removeFile path = .error .notFound) :
    d.get? (path.key d.workingDirectory) = none := by
  have hname := resolveName_ne_notFound hne htrail (fun _ => .isADirectory)
    fun c => by simp
  simp only [removeFile, bind, Except.bind] at h
  split at h
  · rename_i error herror
    rw [Except.error.inj h] at herror
    exact absurd herror hname
  · rename_i key hkey
    obtain ⟨parent, name, rfl, hnames, -⟩ := resolveName_ok hkey
    rw [hnames.key_eq]
    split at h
    · assumption
    · cases h
    · split at h <;> cases h

/-- A renaming that moves something. -/
structure Moves (d : Disk) (source target : Path) (old parent : Key) (name : String)
    (d' : Disk) : Prop where
  old_eq : source.key d.workingDirectory = old
  names : d.Names target parent name
  found : d.get? old ≠ none
  not_above : ¬ old <+: parent ++ [name]
  not_below : ¬ parent ++ [name] <+: old
  replaced : d.get? old = some .directory ∧ d.get? (parent ++ [name]) ≠ none →
    d.get? (parent ++ [name]) = some .directory ∧ d.below (parent ++ [name]) = []
  replaced_file : d.get? old ≠ some .directory → d.get? (parent ++ [name]) ≠ some .directory
  moved : d' = d.move old (parent ++ [name])

theorem rename_ok {source target : Path} (h : d.rename source target = .ok d') :
    (source.key d.workingDirectory = target.key d.workingDirectory ∧ d' = d ∧
      d.get? (source.key d.workingDirectory) ≠ none) ∨
      ∃ old parent name, d.Moves source target old parent name d' := by
  simp only [rename, bind, Except.bind] at h
  split at h
  · cases h
  · split at h
    · cases h
    · split at h
      · cases h
      · split at h
        · cases h
        · rename_i old hold
          split at h
          · cases h
          · rename_i new hnew
            obtain ⟨above, last, rfl, hold, -⟩ := resolveName_ok hold
            obtain ⟨parent, name, rfl, hnames, -⟩ := resolveName_ok hnew
            simp only [renameKey] at h
            split at h
            · cases h
            · rename_i found hfound
              split at h
              · cases h
              · split at h
                · rename_i hsame
                  cases h
                  exact .inl ⟨by rw [hold.key_eq, hnames.key_eq, hsame], rfl,
                    by rw [hold.key_eq, hfound]; simp⟩
                · split at h
                  · cases h
                  · rename_i habove
                    split at h
                    · cases h
                    · rename_i hbelow
                      simp only [bind, Except.bind] at h
                      split at h
                      · cases h
                      · rename_i hreplaceable
                        cases h
                        refine .inr ⟨_, parent, name, hold.key_eq, hnames, by simp [hfound],
                          by simpa using habove, by simpa using hbelow, ?_, ?_, rfl⟩
                        · rintro ⟨hdirectory, hsome⟩
                          rw [hfound] at hdirectory
                          cases hdirectory
                          obtain ⟨other, hother⟩ := Option.ne_none_iff_exists'.1 hsome
                          cases other with
                          | file bytes => simp [replaceable, Entry.kind, hother] at hreplaceable
                          | directory =>
                            refine ⟨hother, ?_⟩
                            by_contra hne
                            simp [replaceable, Entry.kind, hother, hne] at hreplaceable
                        · intro hfile hdirectory
                          rw [hfound] at hfile
                          cases found with
                          | directory => exact hfile rfl
                          | file bytes =>
                            simp [replaceable, Entry.kind, hdirectory] at hreplaceable

theorem fits_of_rename {source target : Path} (h : d.rename source target = .ok d') :
    Fits target := by
  simp only [rename, bind, Except.bind] at h
  split at h
  · cases h
  · split at h
    · cases h
    · split at h
      · cases h
      · split at h
        · cases h
        · split at h
          · cases h
          · rename_i new hnew
            exact fits_of_resolveName hnew

/-! ## Changes within some keys -/

/-- No key at all. -/
abbrev Nowhere : Key → Prop := fun _ => False

/-- Outside the keys that may change nothing has, except that where there was nothing directories
may have been made. -/
structure Confined (change grow : Key → Prop) (d d' : Disk) : Prop where
  sound : d'.Sound
  home : d'.workingDirectory = d.workingDirectory
  same : ∀ k, ¬ change k →
    d'.get? k = d.get? k ∨ grow k ∧ d.get? k = none ∧ d'.get? k = some .directory

namespace Confined

variable {change change' grow grow' : Key → Prop} {k : Key}

theorem refl (h : d.Sound) : d.Confined change grow d := ⟨h, rfl, fun _ _ => .inl rfl⟩

theorem trans (h : d.Confined change grow d') (h' : d'.Confined change grow d'') :
    d.Confined change grow d'' := by
  refine ⟨h'.sound, h'.home.trans h.home, fun k hk => ?_⟩
  rcases h.same k hk with heq | ⟨hgrow, hnone, hdirectory⟩
  · rcases h'.same k hk with heq' | ⟨hgrow, hnone, hdirectory⟩
    · exact .inl (heq'.trans heq)
    · exact .inr ⟨hgrow, heq ▸ hnone, hdirectory⟩
  · rcases h'.same k hk with heq' | ⟨-, hnone', -⟩
    · exact .inr ⟨hgrow, hnone, heq'.trans hdirectory⟩
    · rw [hdirectory] at hnone'
      cases hnone'

theorem mono (h : d.Confined change grow d') (hchange : ∀ k, change k → change' k)
    (hgrow : ∀ k, grow k → grow' k ∨ change' k) : d.Confined change' grow' d' := by
  refine ⟨h.sound, h.home, fun k hk => ?_⟩
  rcases h.same k (fun hc => hk (hchange k hc)) with heq | ⟨hg, hnone, hdirectory⟩
  · exact .inl heq
  · exact .inr ⟨(hgrow k hg).resolve_right hk, hnone, hdirectory⟩

theorem widen (h : d.Confined change Nowhere d') (hchange : ∀ k, change k → change' k) :
    d.Confined change' grow d' :=
  h.mono hchange fun _ hk => hk.elim

/-- Where nothing may grow either, nothing has changed. -/
theorem eq (h : d.Confined change grow d') (hchange : ¬ change k) (hgrow : ¬ grow k) :
    d'.get? k = d.get? k :=
  (h.same k hchange).resolve_right fun hg => hgrow hg.1

/-- What is there stays as it is. -/
theorem eq_of_some (h : d.Confined change grow d') (hchange : ¬ change k)
    (hsome : d.get? k = some entry) : d'.get? k = some entry := by
  rcases h.same k hchange with heq | ⟨-, hnone, -⟩
  · rw [heq, hsome]
  · rw [hsome] at hnone
    cases hnone

theorem areDirectories {keys : List Key} (h : d.Confined change grow d')
    (hkeys : ∀ k ∈ keys, ¬ change k) (hdirectories : d.AreDirectories keys) :
    d'.AreDirectories keys :=
  fun k hk => h.eq_of_some (hkeys k hk) (hdirectories k hk)

end Confined

variable {parent : Key} {name : String}

theorem put_workingDirectory (d : Disk) (key : Key) (entry : Entry) :
    (d.put key entry).workingDirectory = d.workingDirectory := by
  rw [put]
  split <;> rfl

theorem confined_put (hd : d.Sound) (hnames : d.Names path parent name)
    (hentry : d.get? (parent ++ [name]) = some .directory → entry = .directory) :
    d.Confined (· = parent ++ [name]) Nowhere (d.put (parent ++ [name]) entry) := by
  refine ⟨hd.put hnames.plain hnames.directory hentry, put_workingDirectory .., fun k hk => ?_⟩
  rw [get?_put (by simp), if_neg hk]
  exact .inl rfl

/-- A directory that is made is growth. -/
theorem confined_grow (hd : d.Sound) (hnames : d.Names path parent name)
    (hnone : d.get? (parent ++ [name]) = none) :
    d.Confined Nowhere (· = parent ++ [name]) (d.put (parent ++ [name]) .directory) := by
  refine ⟨hd.put hnames.plain hnames.directory fun _ => rfl, put_workingDirectory ..,
    fun k _ => ?_⟩
  rw [get?_put (by simp)]
  by_cases hk : k = parent ++ [name]
  · rw [if_pos hk]
    exact .inr ⟨hk, hk ▸ hnone, rfl⟩
  · rw [if_neg hk]
    exact .inl rfl

theorem confined_erase (hd : d.Sound) (hne : key ≠ [])
    (hbelow : ∀ name, d.get? (key ++ [name]) = none) :
    d.Confined (· = key) Nowhere (d.erase key) := by
  refine ⟨hd.erase hne hbelow, rfl, fun k hk => ?_⟩
  rw [get?_erase hne, if_neg hk]
  exact .inl rfl

theorem confined_removeFile (hd : d.Sound) (h : d.removeFile path = .ok d') :
    d.Confined (· = path.key d.workingDirectory) Nowhere d' := by
  obtain ⟨parent, name, bytes, hnames, hfile, rfl⟩ := removeFile_ok h
  rw [hnames.key_eq]
  exact confined_erase hd (by simp) fun _ => hd.none_below_file hfile (by simp)

theorem confined_removeDirectory (hd : d.Sound) (h : d.removeDirectory path = .ok d') :
    d.Confined (· = path.key d.workingDirectory) Nowhere d' := by
  obtain ⟨parent, name, hnames, -, hbelow, rfl⟩ := removeDirectory_ok h
  rw [hnames.key_eq]
  exact confined_erase hd (by simp) fun _ => hd.below_eq_nil_iff.1 hbelow _ (by simp)

theorem confined_write {bytes : ByteArray} (hd : d.Sound) (h : d.write path bytes = .ok d') :
    d.Confined (· = path.key d.workingDirectory) Nowhere d' := by
  obtain ⟨parent, name, hnames, -, hentry, -, rfl⟩ := write_ok h
  rw [hnames.key_eq]
  exact confined_put hd hnames fun h => absurd h hentry

/-- After a write the file is found under the key of its path. -/
theorem get?_write {bytes : ByteArray} (h : d.write path bytes = .ok d') (k : Key) :
    d'.get? k = if k = path.key d.workingDirectory then some (.file bytes) else d.get? k := by
  obtain ⟨parent, name, hnames, -, -, -, rfl⟩ := write_ok h
  rw [hnames.key_eq, get?_put (by simp)]

section Moves

variable {source target : Path} {old : Key}

/-- There is nothing below what a renaming replaces. -/
theorem Moves.none_below (hd : d.Sound) (h : d.Moves source target old parent name d')
    {rest : List String} (hrest : rest ≠ []) : d.get? (parent ++ [name] ++ rest) = none := by
  by_cases hnone : d.get? (parent ++ [name]) = none
  · exact hd.none_below hnone rest
  · by_cases hold : d.get? old = some .directory
    · exact hd.below_eq_nil_iff.1 (h.replaced ⟨hold, hnone⟩).2 rest hrest
    · obtain ⟨other, hother⟩ := Option.ne_none_iff_exists'.1 hnone
      cases other with
      | directory => exact absurd hother (h.replaced_file hold)
      | file bytes => exact hd.none_below_file hother hrest

theorem Moves.sound (hd : d.Sound) (h : d.Moves source target old parent name d') : d'.Sound := by
  rw [h.moved]
  exact hd.move h.names.plain h.names.directory h.not_above h.not_below
    fun _ hrest => h.none_below hd hrest

theorem Moves.get? (hd : d.Sound) (h : d.Moves source target old parent name d') (k : Key) :
    d'.get? k = (originOf old (parent ++ [name]) k).bind d.get? := by
  rw [h.moved]
  refine get?_move h.not_above h.not_below ?_ k
  rintro ⟨k, e⟩ he ⟨rest, rfl⟩
  by_contra hne
  have hrest : rest ≠ [] := by rintro rfl; simp at hne
  have := (hd.mem_iff (by simp)).1 he
  rw [h.none_below hd hrest] at this
  cases this

/-- What is found at and below the target is what was at and below the source. -/
theorem Moves.get?_target (hd : d.Sound) (h : d.Moves source target old parent name d')
    (rest : List String) : d'.get? (parent ++ [name] ++ rest) = d.get? (old ++ rest) := by
  rw [h.get? hd, originOf_below]
  rfl

theorem Moves.get?_source (hd : d.Sound) (h : d.Moves source target old parent name d')
    (rest : List String) : d'.get? (old ++ rest) = none := by
  have htarget : ¬ parent ++ [name] <+: old ++ rest := by
    intro hpre
    rcases List.prefix_or_prefix_of_prefix hpre (List.prefix_append old rest) with h' | h'
    · exact h.not_below h'
    · exact h.not_above h'
  rw [h.get? hd, originOf_other htarget, if_pos (List.prefix_append ..)]
  rfl

theorem Moves.confined (hd : d.Sound) (h : d.Moves source target old parent name d') :
    d.Confined (fun k => old <+: k ∨ parent ++ [name] <+: k) Nowhere d' := by
  refine ⟨h.sound hd, by rw [h.moved]; rfl, fun k hk => .inl ?_⟩
  rw [not_or] at hk
  rw [h.get? hd, originOf_other hk.2, if_neg hk.1]
  rfl

end Moves

theorem confined_rename {source target : Path} (hd : d.Sound)
    (h : d.rename source target = .ok d') :
    d.Confined (fun k => source.key d.workingDirectory <+: k ∨
      target.key d.workingDirectory <+: k) Nowhere d' := by
  rcases rename_ok h with ⟨-, rfl, -⟩ | ⟨old, parent, name, hmoves⟩
  · exact .refl hd
  · rw [hmoves.old_eq, hmoves.names.key_eq]
    exact hmoves.confined hd

/-! ## Files that can be read -/

theorem resolve_of_find (h : d.find path = .ok (key, entry)) :
    d.resolve path = .ok key ∧ (path.endsInSlash = true → entry = .directory) := by
  simp only [find, bind, Except.bind] at h
  split at h
  · cases h
  · rename_i found hfound
    split at h
    · cases h
    · cases h
      exact ⟨hfound, fun _ => rfl⟩
    · split at h
      · cases h
      · rename_i hslash
        cases h
        exact ⟨hfound, fun h => absurd h hslash⟩

theorem find_of_resolve (h : d.resolve path = .ok key) (hentry : d.get? key = some entry)
    (hslash : path.endsInSlash = true → entry = .directory) : d.find path = .ok (key, entry) := by
  simp only [find, bind, Except.bind, h, hentry]
  cases entry with
  | directory => rfl
  | file bytes =>
    have hfile : path.endsInSlash ≠ true := fun h => by cases hslash h
    exact if_neg hfile

/-- A path that was walked is walked alike wherever its way is open. -/
theorem resolve_of_open (h : d.resolve path = .ok key)
    (hhome : d'.workingDirectory = d.workingDirectory)
    (hopen : d'.AreDirectories (d.parentTrail path)) : d'.resolve path = .ok key := by
  obtain ⟨directory, hdirectory, hkey⟩ : ∃ directory, d.directoryOf path = .ok directory ∧
      keyIn directory path.last = .ok key := by
    simp only [resolve, bind, Except.bind] at h
    split at h
    · cases h
    · rename_i directory hdirectory
      exact ⟨directory, hdirectory, h⟩
  obtain ⟨rfl, -⟩ := directoryOf_ok hdirectory
  have hparent : d'.parentKey path = d.parentKey path := by rw [parentKey, parentKey, hhome]
  have hsame : d'.parentTrail path = d.parentTrail path := by rw [parentTrail, parentTrail, hhome]
  have hdirectory' := directoryOf_of_fits (fits_of_resolve h) (text_ne_of_resolve h) (hsame ▸ hopen)
  simp only [resolve, bind, Except.bind, hdirectory', hparent]
  exact hkey

/-- What is found at the end of a path is kept as long as nothing on the way to it changes. -/
theorem Confined.find {change grow : Key → Prop} (h : d.Confined change grow d')
    (hfind : d.find path = .ok (key, entry))
    (htrail : ∀ k ∈ path.trail d.workingDirectory, ¬ change k) :
    d'.find path = .ok (key, entry) := by
  obtain ⟨hresolve, hslash⟩ := resolve_of_find hfind
  obtain ⟨rfl, hentry, hopen⟩ := find_ok hfind
  refine find_of_resolve (resolve_of_open hresolve h.home (h.areDirectories (fun k hk => ?_) hopen))
    (h.eq_of_some (htrail _ (Path.key_mem_trail _ _)) hentry) hslash
  exact htrail k (mem_trail_of_mem_parentTrail hk)

theorem readFile_eq_ok_iff {bytes : ByteArray} :
    d.readFile path = .ok bytes ↔ ∃ key, d.find path = .ok (key, .file bytes) := by
  rw [readFile]
  split
  · rename_i found bytes' hfound
    simp [hfound]
  · rename_i hfound
    simp [hfound]
  · rename_i hfound
    simp [hfound]

theorem Confined.readFile {bytes : ByteArray} {change grow : Key → Prop}
    (h : d.Confined change grow d') (hread : d.readFile path = .ok bytes)
    (htrail : ∀ k ∈ path.trail d.workingDirectory, ¬ change k) : d'.readFile path = .ok bytes := by
  obtain ⟨key, hfind⟩ := readFile_eq_ok_iff.1 hread
  exact readFile_eq_ok_iff.2 ⟨key, h.find hfind htrail⟩

end Disk
end Exemplar
