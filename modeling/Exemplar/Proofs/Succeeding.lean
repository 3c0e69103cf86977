/-
What succeeds where no fault is met.

As long as no file is in the way, a directory is made together with the ones above it, and what is
not found is not there.  In a directory that is there new entries are made, files are written, and
a file takes the place of another.
-/
import Exemplar.Proofs.Faultless
import Exemplar.Proofs.Staging

namespace Exemplar

/-! ## Directories above a path -/

namespace Path

variable {p : Path}

/-- The names that a path leads through, dots aside. -/
def names (p : Path) : List String := p.segments.filter (· ≠ ".")

/-- The path of the first components. -/
def above (p : Path) (n : Nat) : Path := ofComponents (p.components.take n)

theorem segments_above (p : Path) (n : Nat) : (p.above n).segments
    = ((p.components.take n).map Component.text).filter (· ≠ "") :=
  segments_ofComponents fun _ hc => no_slash_of_mem_components (List.mem_of_mem_take hc)

theorem segments_above_absolute (h : p.isAbsolute = true) (n : Nat) :
    (p.above n).segments = p.names.take (n - 1) := by
  have hcomponents : p.components = .root :: p.segments.filterMap Component.ofSegment? := by
    simp [components, h]
  rw [segments_above, hcomponents]
  cases n with
  | zero => rfl
  | succ n =>
    have hne : ∀ name ∈ p.names.take n, name ≠ "" := fun name hname =>
      ne_empty_of_mem_segments (List.mem_filter.1 (List.mem_of_mem_take hname)).1
    rw [List.take_succ_cons, List.map_cons, List.map_take, text_ofSegment?,
      List.filter_cons_of_neg (by simp [Component.text])]
    exact List.filter_eq_self.2 fun name hname => by simpa using hne name hname

theorem segments_above_relative (h : p.isAbsolute = false) (n : Nat) :
    (p.above n).segments = (p.components.map Component.text).take n := by
  have hne : ∀ component ∈ p.components, component.text ≠ "" := by
    intro component hc hempty
    simp only [components, h, Bool.false_eq_true, if_false, List.mem_append] at hc
    rcases hc with hstart | hrest
    · split at hstart <;> simp_all [Component.text]
    · have hmem := List.mem_map_of_mem (f := Component.text) hrest
      rw [text_ofSegment?] at hmem
      exact ne_empty_of_mem_segments (List.mem_filter.1 hmem).1 hempty
  rw [segments_above, List.map_take]
  refine List.filter_eq_self.2 fun name hname => ?_
  obtain ⟨component, hc, rfl⟩ := List.mem_map.1 (List.mem_of_mem_take hname)
  simpa using hne component hc

/-- The path of one component fewer is that of the directory above. -/
theorem segments_above_dropLast (p : Path) {n : Nat} (hn : n ≤ p.components.length) :
    (p.above n).segments.dropLast = (p.above (n - 1)).segments := by
  have hdropLast {names : List String} {m : Nat} (hm : m ≤ names.length) :
      (names.take m).dropLast = names.take (m - 1) := by
    rw [List.dropLast_eq_take, List.length_take, Nat.min_eq_left hm, List.take_take,
      Nat.min_eq_left (Nat.sub_le m 1)]
  cases h : p.isAbsolute with
  | true =>
    have hlength : p.components.length = p.names.length + 1 := by
      rw [names, ← text_ofSegment?, List.length_map, components, if_pos h, List.singleton_append,
        List.length_cons]
    rw [segments_above_absolute h, segments_above_absolute h, hdropLast (by omega)]
  | false =>
    rw [segments_above_relative h, segments_above_relative h,
      hdropLast (by rwa [List.length_map])]

/-- The paths above a path lead along its way. -/
theorem mem_trail_above {key k : Key} {n : Nat} (hk : k ∈ Key.trail key (p.above n).segments) :
    k ∈ Key.trail key p.segments := by
  rw [← Key.mem_trail_filter, segments_above, texts_take_components] at hk
  rw [← Key.mem_trail_filter, ← List.take_append_drop _ (p.segments.filter (· ≠ "."))]
  exact Key.mem_trail_append hk

/-- The last of the paths above a path leads to the directory in which the path has its last
name. -/
theorem names_above (p : Path) : (p.above (p.components.length - 1)).segments.filter (· ≠ ".")
    = p.names.dropLast := by
  have hlength : p.names.length ≤ p.components.length := by
    rw [names, ← text_ofSegment?, List.length_map, components, List.length_append]
    exact Nat.le_add_left ..
  rw [segments_above, texts_take_components, List.dropLast_eq_take]
  congr 1
  show p.components.length - 1 - (p.components.length - p.names.length) = _
  omega

theorem start_above {n : Nat} (hne : (p.above n).text ≠ "") (home : Key) :
    (p.above n).start home = p.start home := by
  rw [start, start, above, isAbsolute_take p hne]

/-- The names above the last one, unless the path ends in a dot. -/
theorem names_dropLast (h : p.last ≠ .here) :
    p.segments.dropLast.filter (· ≠ ".") = p.names.dropLast := by
  rcases List.eq_nil_or_concat p.segments with hnil | ⟨front, segment, hsegments⟩
  · rw [names, hnil]
    rfl
  · rw [List.concat_eq_append] at hsegments
    have hhere : segment ≠ "." := by
      rintro rfl
      exact h (by simp [last, hsegments, Component.ofSegment?])
    rw [names, hsegments, List.dropLast_concat, List.filter_append,
      List.filter_cons_of_pos (by simpa using hhere), List.filter_nil, List.dropLast_concat]

end Path

/-- An error that tells that there is nothing, or of a limit. -/
def FileError.IsMissing (error : FileError) : Prop := error = .notFound ∨ error.IsLimit

namespace Disk

variable {d d' : Disk} {path base : Path} {name : String} {key : Key} {names : List String}
variable {error : FileError}

/-- A path from the root starts at a directory. -/
theorem directory_start (h : path.isAbsolute = true) (home : Key) :
    d.get? (path.start home) = some .directory := by
  rw [Path.start, if_pos h, get?_root]

/-- Where the way of a path is open, so is that of its absolute form. -/
theorem Sound.areDirectories_absolute (hd : d.Sound) {home : Key}
    (h : d.AreDirectories (path.trail d.workingDirectory)) :
    d.AreDirectories ((d.absolute path).trail home) := by
  by_cases hpath : path.isAbsolute = true
  · rw [Path.trail, Path.start, if_pos hpath] at h
    rwa [absolute_of_isAbsolute hpath, Path.trail, Path.start, if_pos hpath]
  · rw [Path.trail, Path.start, if_neg hpath] at h
    rw [Path.trail, Path.start, isAbsolute_absolute, if_pos rfl,
      segments_absolute hd.home (Bool.eq_false_iff.2 hpath), Key.trail_append,
      Key.walk_plain hd.home, List.nil_append]
    intro k hk
    rcases List.mem_append.1 hk with hk | hk
    · -- What is passed lies above the working directory, which the way starts at.
      obtain ⟨front, ⟨rest, hrest⟩, hfront⟩ :=
        Key.mem_trail_plain hd.home (List.mem_append_left [_] hk)
      obtain rfl : k = front := hfront
      have hhome := h _ (Key.self_mem_trail _ _)
      by_cases hempty : rest = []
      · rwa [← List.append_nil k, ← hempty, hrest]
      · exact hd.directory_above hempty (by rw [hrest, hhome]; simp)
    · exact h k hk

/-! ## Nothing in the way -/

/-- No key of a list is that of a file. -/
def AreClear (d : Disk) (keys : List Key) : Prop :=
  ∀ k ∈ keys, ∀ bytes, d.get? k ≠ some (.file bytes)

instance (d : Disk) (keys : List Key) : Decidable (d.AreClear keys) :=
  inferInstanceAs (Decidable (∀ k ∈ keys, ∀ _ : ByteArray, _))

theorem AreDirectories.areClear {keys : List Key} (h : d.AreDirectories keys) :
    d.AreClear keys := by
  intro k hk bytes hfile
  rw [h k hk] at hfile
  cases hfile

theorem Confined.areClear {change grow : Key → Prop} {keys : List Key}
    (h : d.Confined change grow d')
    (hkeys : ∀ k ∈ keys, ¬ change k) (hclear : d.AreClear keys) : d'.AreClear keys := by
  intro k hk bytes hfile
  rcases h.same k (hkeys k hk) with heq | ⟨-, -, hdirectory⟩
  · exact hclear k hk bytes (heq ▸ hfile)
  · rw [hdirectory] at hfile
    cases hfile

/-- A directory that is there, or that can be made: no file is in the way, and the path does not end
in a dot, which is no name to make a directory under. -/
def CanBeMade (d : Disk) (path : Path) : Prop :=
  d.AreDirectories (path.trail d.workingDirectory) ∨
    path.last ≠ .here ∧ d.AreClear (path.trail d.workingDirectory)

instance (d : Disk) (path : Path) : Decidable (d.CanBeMade path) :=
  inferInstanceAs (Decidable (_ ∨ _ ∧ _))

theorem CanBeMade.areClear (h : d.CanBeMade path) :
    d.AreClear (path.trail d.workingDirectory) :=
  h.elim (·.areClear) (·.2)

theorem resolveFrom_error (hclear : d.AreClear (Key.passed key names))
    (h : d.resolveFrom key names = .error error) : error.IsMissing := by
  induction names generalizing key with
  | nil => cases h
  | cons name rest ih =>
    obtain ⟨hkey, hrest⟩ := List.forall_mem_cons.1 hclear
    cases hentry : d.get? key with
    | none =>
      simp only [resolveFrom, hentry] at h
      exact .inl (Except.error.inj h).symm
    | some entry =>
      cases entry with
      | file bytes => exact absurd hentry (hkey bytes)
      | directory =>
        by_cases hlong : longestName < name.utf8ByteSize
        · simp only [resolveFrom, hentry, if_pos hlong] at h
          exact .inr (.inr (Except.error.inj h).symm)
        · rw [resolveFrom_cons hentry hlong] at h
          exact ih hrest h

theorem directoryOf_error (hclear : d.AreClear (d.parentTrail path))
    (h : d.directoryOf path = .error error) : error.IsMissing := by
  simp only [directoryOf] at h
  split at h
  · exact .inr (.inl (Except.error.inj h).symm)
  · split at h
    · exact .inl (Except.error.inj h).symm
    · split at h
      · exact .inr (.inr (Except.error.inj h).symm)
      · simp only [bind, Except.bind] at h
        split at h
        · rename_i hresolve
          rw [Except.error.inj h] at hresolve
          exact resolveFrom_error (fun k hk => hclear k (List.mem_append_left _ hk)) hresolve
        · rename_i k hresolve
          obtain ⟨rfl, -⟩ := resolveFrom_ok hresolve
          split at h
          · exact .inl (Except.error.inj h).symm
          · rename_i bytes hfile
            exact absurd hfile (hclear _ (Key.walk_mem_trail _ _) bytes)
          · cases h

theorem keyIn_name_error {text : String} (h : keyIn key (.name text) = .error error) :
    error.IsMissing := by
  rw [keyIn] at h
  split at h
  · exact .inr (.inr (Except.error.inj h).symm)
  · cases h

theorem resolve_entry_error (hname : Path.IsPlain name)
    (hclear : d.AreClear (base.trail d.workingDirectory))
    (h : d.resolve (base.entry name) = .error error) : error.IsMissing := by
  simp only [resolve, bind, Except.bind] at h
  split at h
  · rename_i hof
    rw [Except.error.inj h] at hof
    exact directoryOf_error (by rwa [parentTrail_entry hname]) hof
  · rw [Path.last_entry hname] at h
    exact keyIn_name_error h

theorem resolveName_entry_error (hname : Path.IsPlain name)
    (hclear : d.AreClear (base.trail d.workingDirectory)) {refusal : Path.Component → FileError}
    (h : d.resolveName (base.entry name) refusal = .error error) : error.IsMissing := by
  simp only [resolveName, bind, Except.bind] at h
  split at h
  · rename_i hof
    rw [Except.error.inj h] at hof
    exact directoryOf_error (by rwa [parentTrail_entry hname]) hof
  · simp only [Path.last_entry hname] at h
    exact keyIn_name_error h

theorem eq_notFound {α : Type} {result : Except FileError α} (hmissing : error.IsMissing)
    (hresult : result = .error error) (hfine : isFine result = true) :
    result = .error .notFound := by
  rcases hmissing with rfl | hlimit
  · exact hresult
  · rw [not_isFine_of_limit hlimit hresult] at hfine
    cases hfine

/-- Without faults an entry is not found if it is not there, also if its directory is not. -/
theorem find_entry_missing (hname : Path.IsPlain name)
    (hclear : d.AreClear (base.trail d.workingDirectory))
    (hnone : d.get? (base.key d.workingDirectory ++ [name]) = none)
    (hfine : isFine (d.find (base.entry name)) = true) :
    d.find (base.entry name) = .error .notFound := by
  cases hresolve : d.resolve (base.entry name) with
  | error error =>
    exact eq_notFound (resolve_entry_error hname hclear hresolve)
      (by simp [find, bind, Except.bind, hresolve]) hfine
  | ok key =>
    obtain ⟨rfl, -⟩ := resolve_ok hresolve
    rw [← Path.key_entry hname] at hnone
    simp [find, bind, Except.bind, hresolve, hnone]

/-- Without faults a file that is to be removed is not found if it is not there. -/
theorem removeFile_entry_missing (hname : Path.IsPlain name)
    (hclear : d.AreClear (base.trail d.workingDirectory))
    (hnone : d.get? (base.key d.workingDirectory ++ [name]) = none)
    (hfine : isFine (d.removeFile (base.entry name)) = true) :
    d.removeFile (base.entry name) = .error .notFound := by
  cases hresolve : d.resolveName (base.entry name) fun _ => .isADirectory with
  | error error =>
    exact eq_notFound (resolveName_entry_error hname hclear hresolve)
      (by simp [removeFile, bind, Except.bind, hresolve]) hfine
  | ok key =>
    obtain ⟨parent, last, rfl, hnames, -⟩ := resolveName_ok hresolve
    rw [← Path.key_entry hname, hnames.key_eq] at hnone
    simp [removeFile, bind, Except.bind, hresolve, hnone]

/-- Without faults a file in an open directory can be written. -/
theorem write_entry {bytes : ByteArray} (hname : Path.IsPlain name)
    (htrail : d.AreDirectories (base.trail d.workingDirectory))
    (hentry : d.get? (base.key d.workingDirectory ++ [name]) ≠ some .directory)
    (hfine : isFine (d.write (base.entry name) bytes) = true) :
    ∃ d', d.write (base.entry name) bytes = .ok d' := by
  rcases resolveName_entry hname htrail (fun _ => .isADirectory) with
    hresolve | ⟨error, hlimit, hresolve⟩
  · refine ⟨d.put (base.key d.workingDirectory ++ [name]) (.file bytes), ?_⟩
    simp only [write, bind, Except.bind, hresolve, Path.endsInSlash_entry hname]
    split
    · cases ‹false = true›
    · rfl
  · rw [not_isFine_of_limit hlimit (by simp [write, bind, Except.bind, hresolve])] at hfine
    cases hfine

/-- A file may take the place of anything but a directory. -/
theorem replaceable_file (h : d.get? key ≠ some .directory) : d.replaceable .file key = .ok () := by
  unfold replaceable
  rcases hentry : d.get? key with _ | _ | bytes
  · rfl
  · exact absurd hentry h
  · rfl

/-- Without faults a new entry is made in an open directory. -/
theorem newEntry_open {beginning ending : String} {entry : Entry}
    (hbeginning : '/' ∉ beginning.toList) (hending : '/' ∉ ending.toList)
    (htrail : d.AreDirectories ((d.absolute base).trail d.workingDirectory))
    (hfine : isFine (d.newEntry base beginning ending entry).1 = true) :
    ∃ path, (d.newEntry base beginning ending entry).1 = .ok path := by
  have hplain := isPlain_temporaryName hbeginning hending (d.freeSerial base beginning ending)
  rw [newEntry_eq] at hfine ⊢
  rcases resolve_entry hplain htrail with hresolve | ⟨error, hlimit, hresolve⟩
  · rw [freePath, temporaryPath, hresolve]
    exact ⟨_, rfl⟩
  · rw [freePath, temporaryPath, hresolve, isFine, FileError.isFault, hlimit.isFault] at hfine
    cases hfine

/-- Where a directory cannot be made although nothing is in the way, something above it is missing,
or it is there. -/
theorem makeDirectory_error (hd : d.Sound) (hclear : d.AreClear (path.trail d.workingDirectory))
    (h : d.makeDirectory path = .error error) :
    error.IsMissing ∨ d.AreDirectories (path.trail d.workingDirectory) := by
  have hparent : d.AreClear (d.parentTrail path) :=
    fun k hk => hclear k (mem_trail_of_mem_parentTrail hk)
  cases hof : d.directoryOf path with
  | error error' =>
    simp only [makeDirectory, resolveName, bind, Except.bind, hof] at h
    exact .inl (Except.error.inj h ▸ directoryOf_error hparent hof)
  | ok directory =>
    obtain ⟨rfl, hopen⟩ := directoryOf_ok hof
    have htop : d.get? (path.key d.workingDirectory) = some .directory →
        d.AreDirectories (path.trail d.workingDirectory) := by
      intro hdirectory k hk
      rcases mem_parentTrail_of_mem_trail hk with hk | rfl
      · exact hopen k hk
      · exact hdirectory
    have hwalk := hopen _ (Key.walk_mem_trail _ _)
    cases hlast : path.last with
    | name text =>
      cases hkey : keyIn (d.parentKey path) (.name text) with
      | error error' =>
        simp only [makeDirectory, resolveName, bind, Except.bind, hof, hlast, hkey] at h
        exact .inl (Except.error.inj h ▸ keyIn_name_error hkey)
      | ok key =>
        have hkeyEq : key = path.key d.workingDirectory := keyIn_ok (hlast ▸ hkey)
        simp only [makeDirectory, resolveName, bind, Except.bind, hof, hlast, hkey, hkeyEq] at h
        split at h
        · rename_i hsome
          obtain ⟨entry, hentry⟩ := Option.isSome_iff_exists.1 hsome
          cases entry with
          | directory => exact .inr (htop hentry)
          | file bytes => exact absurd hentry (hclear _ (Path.key_mem_trail _ _) bytes)
        · cases h
    | root | here =>
      have hkeyEq : d.parentKey path = path.key d.workingDirectory :=
        keyIn_ok (by rw [hlast, keyIn]; rfl)
      exact .inr (htop (hkeyEq ▸ hwalk))
    | parent =>
      have hkeyEq : (d.parentKey path).dropLast = path.key d.workingDirectory :=
        keyIn_ok (by rw [hlast, keyIn]; rfl)
      exact .inr (htop (hkeyEq ▸ hd.directory_dropLast hwalk))

end Disk

namespace Files

open Exemplar.Action Disk

variable {d : Disk} {p q path : Path}

/-- Without faults a directory is made or is there, if the one above is there. -/
theorem holds_settled (hd : d.Sound) (hne : path.text ≠ "")
    (hparent : d.AreDirectories (d.parentTrail path))
    (hclear : d.AreClear (path.trail d.workingDirectory)) :
    Holds Faultless (fun _ => True)
      (Action.request (.makeDirectory path) >>= makeDirectories.orIfDirectory path) d
      fun result _ => result = .ok () := by
  refine holds_bind.2 (holds_request trivial fun reply d' hanswer => ?_)
  obtain ⟨⟨hreply, hd'⟩, hfine⟩ := hanswer
  cases hmake : d.makeDirectory path with
  | ok next =>
    rw [answer, hmake] at hreply
    rw [hreply]
    rfl
  | error error =>
    rw [answer, hmake] at hreply hd'
    obtain rfl : d' = d := hd'
    obtain rfl : reply = .error error := hreply
    rcases makeDirectory_error hd hclear hmake with hmissing | htrail
    · exact absurd (eq_notFound hmissing hmake hfine) (makeDirectory_ne_notFound hne hparent)
    · exact holds_orIfDirectory_faultless hne htrail error trivial rfl

/-- Without faults a directory is made after the ones above it. -/
theorem holds_makeDirectories_cons {above : List Path} (hd : d.Sound) (hne : q.text ≠ "")
    (hclear : d.AreClear (q.trail d.workingDirectory))
    (habove : Holds Faultless (fun _ => True) (makeDirectories above) d fun result d' =>
      result = .ok () ∧ d'.Sound ∧ d'.AreDirectories (d'.parentTrail q) ∧
        d'.AreClear (q.trail d'.workingDirectory)) :
    Holds Faultless (fun _ => True) (makeDirectories (q :: above)) d
      fun result _ => result = .ok () := by
  rw [makeDirectories, if_neg hne]
  refine holds_bind.2 (holds_request trivial fun reply d' hanswer => ?_)
  obtain ⟨⟨hreply, hd'⟩, hfine⟩ := hanswer
  cases hmake : d.makeDirectory q with
  | ok next =>
    rw [answer, hmake] at hreply
    rw [hreply]
    rfl
  | error error =>
    rw [answer, hmake] at hreply hd'
    obtain rfl : d' = d := hd'
    obtain rfl : reply = .error error := hreply
    rcases makeDirectory_error hd hclear hmake with hmissing | htrail
    · obtain rfl : error = .notFound := by
        simpa [hmake] using eq_notFound hmissing hmake hfine
      refine holds_bind.2 (habove.mono (fun _ h => h) ?_)
      rintro result d₁ ⟨rfl, hd₁, hparent, hclear₁⟩
      exact holds_settled hd₁ hne hparent hclear₁
    · have hopen := makeDirectory_ne_notFound hne
        fun k hk => htrail k (mem_trail_of_mem_parentTrail hk)
      cases error with
      | notFound => exact absurd hmake hopen
      | _ => exact holds_orIfDirectory_faultless hne htrail _ trivial rfl

/-- Without faults a directory is made together with the ones above it that are missing. -/
theorem holds_makeDirectories_clear (p : Path) (n : Nat) (hn : n ≤ p.components.length) :
    ∀ {q : Path} {d : Disk}, q.text ≠ "" → d.Sound →
      d.get? (p.start d.workingDirectory) = some .directory →
      (∀ k ∈ d.parentTrail q,
        k ∈ Key.trail (p.start d.workingDirectory) (p.above (n - 1)).segments) →
      d.AreClear (q.trail d.workingDirectory) → d.AreClear (p.trail d.workingDirectory) →
      Holds Faultless (fun _ => True) (makeDirectories (q :: (List.range n).reverse.map p.above)) d
        fun result _ => result = .ok () := by
  -- Where no name is left, only the start is above.
  have honly {q : Path} {d : Disk} {m : Nat} (hempty : (p.above m).segments = [])
      (hstart : d.get? (p.start d.workingDirectory) = some .directory)
      (hparent : ∀ k ∈ d.parentTrail q,
        k ∈ Key.trail (p.start d.workingDirectory) (p.above m).segments) :
      d.AreDirectories (d.parentTrail q) := by
    intro k hk
    have hk := hparent k hk
    rw [hempty] at hk
    obtain rfl : k = p.start d.workingDirectory := List.mem_singleton.1 hk
    exact hstart
  induction n with
  | zero =>
    intro q d hne hd hstart hparent hclear _
    refine holds_makeDirectories_cons hd hne hclear ⟨rfl, hd, honly ?_ hstart hparent, hclear⟩
    rw [p.segments_above]
    rfl
  | succ n ih =>
    intro q d hne hd hstart hparent hclear hall
    rw [List.range_succ, List.reverse_append, List.reverse_singleton, List.singleton_append,
      List.map_cons]
    by_cases hempty : (p.above n).text = ""
    · refine holds_makeDirectories_cons hd hne hclear ?_
      rw [makeDirectories, if_pos hempty]
      exact ⟨rfl, hd, honly (by simp [Path.segments, hempty]) hstart hparent, hclear⟩
    · have habove : Holds Faultless (fun _ => True)
          (makeDirectories (p.above n :: (List.range n).reverse.map p.above)) d
          fun result _ => result = .ok () := by
        refine ih (by omega) hempty hd hstart (fun k hk => ?_) (fun k hk => hall k ?_) hall
        · rwa [parentTrail, Path.start_above hempty, p.segments_above_dropLast (by omega)] at hk
        · rw [Path.trail, Path.start_above hempty] at hk
          exact Path.mem_trail_above hk
      have hframe : Holds Happens (d.Confined Nowhere fun _ => True)
          (makeDirectories (p.above n :: (List.range n).reverse.map p.above)) d _ :=
        holds_makeDirectories (.refl hd) fun _ _ _ => .inl trivial
      refine holds_makeDirectories_cons hd hne hclear ((habove.and (hframe.restrict
        fun _ _ _ _ h => Faultless.happens h)).mono (fun _ _ => trivial) ?_)
      rintro result d' ⟨rfl, hconfined, hleads⟩
      refine ⟨rfl, hconfined.sound, fun k hk => ?_, ?_⟩
      · refine (hleads _ rfl hempty rfl).open_trail k ?_
        rw [Path.trail, Path.start_above hempty, hconfined.home]
        refine hparent k ?_
        rwa [parentTrail, hconfined.home] at hk
      · rw [hconfined.home]
        exact hconfined.areClear (fun _ _ h => h) hclear

/-- Without faults a directory that can be made is made, and nothing else than directories on its
way. -/
theorem holds_ensureDirectory_made (hd : d.Sound)
    (hstart : d.get? (path.start d.workingDirectory) = some .directory) (h : d.CanBeMade path) :
    Holds Faultless (d.Confined Nowhere (· ∈ path.trail d.workingDirectory))
      (ensureDirectory path) d fun result d' => result = .ok () ∧
        d.Confined Nowhere (· ∈ path.trail d.workingDirectory) d' ∧
        d'.AreDirectories (path.trail d.workingDirectory) := by
  by_cases hempty : path.text = ""
  · have hsegments : path.segments = [] := by simp [Path.segments, hempty]
    rw [ensureDirectory, Path.upwards, makeDirectories, if_pos hempty]
    refine ⟨rfl, .refl hd, fun k hk => ?_⟩
    rw [Path.trail, hsegments] at hk
    obtain rfl : k = path.start d.workingDirectory := List.mem_singleton.1 hk
    exact hstart
  have hok : Holds Faultless (fun _ => True) (ensureDirectory path) d
      fun result _ => result = .ok () := by
    rcases h with htrail | ⟨hlast, hclear⟩
    · exact holds_ensureDirectory_faultless htrail trivial rfl
    · refine holds_makeDirectories_clear path _ (Nat.le_refl _) hempty hd hstart
        (fun k hk => ?_) hclear hclear
      rw [parentTrail, ← Key.mem_trail_filter, Path.names_dropLast hlast] at hk
      rwa [← Key.mem_trail_filter, Path.names_above]
  refine ((hok.and ((holds_ensureDirectory_alone hd).restrict
    fun _ _ _ _ h => Faultless.happens h)).mono (fun _ h => h.2) ?_)
  rintro result d' ⟨rfl, hconfined, hleads⟩
  refine ⟨rfl, hconfined, ?_⟩
  rw [← hconfined.home]
  exact (hleads hempty rfl).open_trail

end Files
end Exemplar
