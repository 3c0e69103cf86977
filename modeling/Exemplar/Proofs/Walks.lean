/-
Where paths lead.

The key that a path leads to is fixed by its text and the working directory; the
disk only decides whether the path can be walked, which it can if every key on
the way is a directory and no limit of the system is in the way.  So a request
that succeeds acts on the key of its path, and one that finds nothing although
the way is open tells that there is nothing.
-/
import Exemplar.Proofs.Entries

namespace Exemplar

/-! ## Keys on the way -/

namespace Key

/-- Where one more name leads. -/
def step (key : Key) (name : String) : Key :=
  if name = "." then key else if name = ".." then key.dropLast else key ++ [name]

def walk (key : Key) (names : List String) : Key := names.foldl step key

/-- The keys that are passed on the way, the last one not included. -/
def passed (key : Key) : List String → List Key
  | [] => []
  | name :: rest => key :: passed (step key name) rest

/-- All keys on the way, from the first to the one that is reached. -/
def trail (key : Key) (names : List String) : List Key := passed key names ++ [walk key names]

theorem step_plain {name : String} (h : Path.IsPlain name) (key : Key) :
    step key name = key ++ [name] := by
  rw [step, if_neg h.ne_here, if_neg h.ne_parent]

theorem walk_cons (key : Key) (name : String) (rest : List String) :
    walk key (name :: rest) = walk (step key name) rest := rfl

theorem walk_append (key : Key) (names rest : List String) :
    walk key (names ++ rest) = walk (walk key names) rest := List.foldl_append

theorem walk_plain {names : List String} (h : ∀ name ∈ names, Path.IsPlain name) (key : Key) :
    walk key names = key ++ names := by
  induction names generalizing key with
  | nil => simp [walk]
  | cons name rest ih =>
    obtain ⟨hname, hrest⟩ := List.forall_mem_cons.1 h
    rw [walk_cons, step_plain hname, ih hrest, List.append_assoc, List.singleton_append]

theorem passed_append (key : Key) (names rest : List String) :
    passed key (names ++ rest) = passed key names ++ passed (walk key names) rest := by
  induction names generalizing key with
  | nil => rfl
  | cons name more ih => rw [List.cons_append, passed, passed, ih, walk_cons, List.cons_append]

theorem passed_concat (key : Key) (names : List String) (name : String) :
    passed key (names ++ [name]) = trail key names := by
  rw [passed_append]
  rfl

theorem trail_cons (key : Key) (name : String) (rest : List String) :
    trail key (name :: rest) = key :: trail (step key name) rest := rfl

theorem walk_mem_trail (key : Key) (names : List String) : walk key names ∈ trail key names := by
  simp [trail]

theorem self_mem_trail (key : Key) (names : List String) : key ∈ trail key names := by
  cases names with
  | nil => exact walk_mem_trail _ _
  | cons name rest => rw [trail_cons]; exact List.mem_cons_self

theorem trail_append (key : Key) (names rest : List String) :
    trail key (names ++ rest) = passed key names ++ trail (walk key names) rest := by
  rw [trail, passed_append, walk_append, List.append_assoc]
  rfl

theorem mem_trail_append {key k : Key} {names rest : List String} (h : k ∈ trail key names) :
    k ∈ trail key (names ++ rest) := by
  rw [trail_append]
  rcases List.mem_append.1 h with h | h
  · exact List.mem_append_left _ h
  · rw [List.mem_singleton.1 h]
    exact List.mem_append_right _ (self_mem_trail _ _)

/-- Plain names lead down. -/
theorem mem_trail_plain {names : List String} (h : ∀ name ∈ names, Path.IsPlain name) {key k : Key}
    (hk : k ∈ trail key names) : ∃ front, front <+: names ∧ k = key ++ front := by
  induction names generalizing key with
  | nil => exact ⟨[], List.nil_prefix, by simpa [walk] using List.mem_singleton.1 hk⟩
  | cons name rest ih =>
    obtain ⟨hname, hrest⟩ := List.forall_mem_cons.1 h
    rw [trail_cons, step_plain hname] at hk
    rcases List.mem_cons.1 hk with rfl | hk
    · exact ⟨[], List.nil_prefix, (List.append_nil _).symm⟩
    · obtain ⟨front, hfront, rfl⟩ := ih hrest hk
      exact ⟨name :: front, (List.prefix_cons_inj name).2 hfront, by simp⟩

/-- Dots lead nowhere else. -/
theorem walk_filter (key : Key) (names : List String) :
    walk key (names.filter (· ≠ ".")) = walk key names := by
  induction names generalizing key with
  | nil => rfl
  | cons name rest ih =>
    by_cases hname : name = "."
    · rw [List.filter_cons_of_neg (by simpa using hname), ih, walk_cons, step, if_pos hname]
    · rw [List.filter_cons_of_pos (by simpa using hname), walk_cons, walk_cons, ih]

theorem mem_trail_filter {key k : Key} {names : List String} :
    k ∈ trail key (names.filter (· ≠ ".")) ↔ k ∈ trail key names := by
  induction names generalizing key with
  | nil => rfl
  | cons name rest ih =>
    by_cases hname : name = "."
    · subst hname
      have hself := self_mem_trail key rest
      rw [List.filter_cons_of_neg (by simp), ih, trail_cons, step, if_pos rfl, List.mem_cons]
      exact ⟨.inr, fun h => h.elim (fun e => e ▸ hself) id⟩
    · rw [List.filter_cons_of_pos (by simpa using hname), trail_cons, trail_cons, List.mem_cons,
        List.mem_cons, ih]

end Key

namespace Path

/-- Where a path is walked from. -/
def start (home : Key) (path : Path) : Key := if path.isAbsolute then [] else home

/-- The key that a path leads to. -/
def key (home : Key) (path : Path) : Key := Key.walk (path.start home) path.segments

/-- All keys on the way of a path, its own included. -/
def trail (home : Key) (path : Path) : List Key := Key.trail (path.start home) path.segments

variable {home : Key} {base : Path} {name : String} {names : List String}

theorem start_entry (h : IsPlain name) : (base.entry name).start home = base.start home := by
  rw [start, isAbsolute_entry h, start]

theorem key_entry (h : IsPlain name) : (base.entry name).key home = base.key home ++ [name] := by
  rw [key, start_entry h, segments_entry h, Key.walk_append, key]
  exact Key.step_plain h _

theorem key_join {p : Path} (hbase : base.isAbsolute = true) (hp : p.isAbsolute = false) :
    (base.join p).key home = Key.walk (base.key home) p.segments := by
  rw [key, key, start, start, isAbsolute_join hbase p, hbase, segments_join hp, Key.walk_append]

theorem key_descend (h : ∀ name ∈ names, IsPlain name) :
    (base.descend names).key home = base.key home ++ names := by
  induction names generalizing base with
  | nil => simp [descend_nil]
  | cons name rest ih =>
    obtain ⟨hname, hrest⟩ := List.forall_mem_cons.1 h
    rw [descend_cons, ih hrest, key_entry hname, List.append_assoc, List.singleton_append]

theorem key_mem_trail (home : Key) (path : Path) : path.key home ∈ path.trail home :=
  Key.walk_mem_trail _ _

theorem trail_entry (h : IsPlain name) :
    (base.entry name).trail home = base.trail home ++ [(base.entry name).key home] := by
  rw [trail, start_entry h, segments_entry h, Key.trail, Key.passed_concat, trail, key,
    start_entry h, segments_entry h]

theorem mem_trail_descend {k : Key} (h : ∀ name ∈ names, IsPlain name) :
    k ∈ (base.descend names).trail home →
      k ∈ base.trail home ∨ ∃ front, front <+: names ∧ k = base.key home ++ front := by
  induction names generalizing base with
  | nil => exact .inl
  | cons name rest ih =>
    obtain ⟨hname, hrest⟩ := List.forall_mem_cons.1 h
    rw [descend_cons]
    intro hk
    rcases ih hrest hk with hk | ⟨front, hfront, rfl⟩
    · rw [trail_entry hname] at hk
      rcases List.mem_append.1 hk with hk | hk
      · exact .inl hk
      · refine .inr ⟨[name], by simp, ?_⟩
        rw [List.mem_singleton.1 hk, key_entry hname]
    · refine .inr ⟨name :: front, by simpa using hfront, ?_⟩
      rw [key_entry hname, List.append_assoc, List.singleton_append]

theorem components_of_root {p : Path} {rest : List Component} (h : p.components = .root :: rest) :
    p.isAbsolute = true ∧ rest = p.segments.filterMap Component.ofSegment? := by
  have hp : p.isAbsolute = true := isAbsolute_of_root_mem (by simp [h])
  exact ⟨hp, by simpa [components, hp] using h.symm⟩

/-- A path from the root leads where its components do. -/
theorem key_of_components {p : Path} {rest : List Component} (h : p.components = .root :: rest) :
    p.key home = Key.walk [] (rest.map Component.text) := by
  obtain ⟨hp, rfl⟩ := components_of_root h
  rw [text_ofSegment?, Key.walk_filter, key, start, if_pos hp]

/-- Segments stand for names, unless they lead up. -/
theorem isPlain_of_ofSegment? {p : Path} {segment : String} {component : Component}
    (hsegment : segment ∈ p.segments) (h : Component.ofSegment? segment = some component)
    (hparent : component ≠ .parent) : IsPlain component.text := by
  rw [Component.ofSegment?] at h
  split at h
  · cases h
  · rename_i hhere
    split at h
    · exact absurd (Option.some.inj h).symm hparent
    · rename_i hup
      obtain rfl := Option.some.inj h
      exact ⟨ne_empty_of_mem_segments hsegment, hhere, hup, no_slash_of_mem_segments hsegment⟩

/-- What stands below a path without climbing up leads down from it. -/
theorem key_of_startsWith (home : Key) {p top : Path} (htop : top.isAbsolute = true)
    (h : p.startsWith top = true)
    (hparent : .parent ∉ p.components.drop top.components.length) :
    ∃ names, p.key home = top.key home ++ names := by
  obtain ⟨more, hmore⟩ := List.isPrefixOf_iff_prefix.1 h
  obtain ⟨above, habove⟩ : ∃ above, top.components = .root :: above :=
    ⟨top.segments.filterMap Component.ofSegment?, by simp [components, htop]⟩
  rw [← hmore, List.drop_left] at hparent
  have hall : p.components = .root :: (above ++ more) := by rw [← hmore, habove, List.cons_append]
  have hplain : ∀ text ∈ more.map Component.text, IsPlain text := by
    intro text htext
    obtain ⟨component, hmem, rfl⟩ := List.mem_map.1 htext
    have hmem' : component ∈ above ++ more := List.mem_append_right _ hmem
    rw [(components_of_root hall).2] at hmem'
    obtain ⟨segment, hsegment, hcomponent⟩ := List.mem_filterMap.1 hmem'
    exact isPlain_of_ofSegment? hsegment hcomponent fun heq => hparent (heq ▸ hmem)
  refine ⟨more.map Component.text, ?_⟩
  rw [key_of_components hall, key_of_components habove, List.map_append, Key.walk_append,
    Key.walk_plain hplain]

/-- The paths above a path lead along its way. -/
theorem trail_upwards {p q : Path} (h : q ∈ p.upwards) (hne : q.text ≠ "") {k : Key}
    (hk : k ∈ q.trail home) : k ∈ p.trail home := by
  obtain ⟨habs, n, hsegments⟩ := of_mem_upwards h hne
  rw [trail, ← Key.mem_trail_filter, hsegments, start, habs] at hk
  rw [trail, ← Key.mem_trail_filter, start, ← List.take_append_drop n (p.segments.filter _)]
  exact Key.mem_trail_append hk

/-- A path that ends in a name. -/
theorem of_last_eq_name {p : Path} {text : String} (h : p.last = .name text) :
    IsPlain text ∧ p.segments = p.segments.dropLast ++ [text] := by
  simp only [last] at h
  split at h
  · cases h
  · rename_i segment hsegment
    have hne : p.segments ≠ [] := by rintro e; simp [e] at hsegment
    have hmem : segment ∈ p.segments := List.mem_of_getLast? hsegment
    have heq : segment = text ∧ segment ≠ "." ∧ segment ≠ ".." := by
      simp only [Component.ofSegment?] at h
      split at h
      · simp at h
      · rename_i hhere
        split at h
        · simp at h
        · rename_i hparent
          exact ⟨by simpa using h, hhere, hparent⟩
    obtain ⟨rfl, hhere, hparent⟩ := heq
    refine ⟨⟨ne_empty_of_mem_segments hmem, hhere, hparent, no_slash_of_mem_segments hmem⟩, ?_⟩
    exact (List.dropLast_append_getLast? segment hsegment).symm

theorem key_of_last {p : Path} {text : String} (h : p.last = .name text) :
    p.key home = Key.walk (p.start home) p.segments.dropLast ++ [text] := by
  obtain ⟨hplain, hsegments⟩ := of_last_eq_name h
  rw [key, hsegments, Key.walk_append, List.dropLast_concat]
  exact Key.step_plain hplain _

end Path

/-! ## Walking on a disk -/

/-- An error that tells of a limit of the system and not of what is on the disk. -/
def FileError.IsLimit (error : FileError) : Prop := error = .zeroInPath ∨ error = .nameTooLong

theorem FileError.IsLimit.ne_notFound {error : FileError} (h : error.IsLimit) :
    error ≠ .notFound := by
  rcases h with rfl | rfl <;> simp

namespace Disk

variable {d : Disk} {key : Key} {path : Path} {names : List String}

/-- Every key of a list is that of a directory. -/
def AreDirectories (d : Disk) (keys : List Key) : Prop := ∀ k ∈ keys, d.get? k = some .directory

instance (d : Disk) (keys : List Key) : Decidable (d.AreDirectories keys) :=
  inferInstanceAs (Decidable (∀ k ∈ keys, _))

/-- A walk goes on from a directory. -/
theorem resolveFrom_cons {name : String} {rest : List String} (hkey : d.get? key = some .directory)
    (hshort : ¬ longestName < name.utf8ByteSize) :
    d.resolveFrom key (name :: rest) = d.resolveFrom (Key.step key name) rest := by
  simp only [resolveFrom, hkey, if_neg hshort, Key.step]
  split
  · rfl
  · split <;> rfl

theorem resolveFrom_ok {k : Key} (h : d.resolveFrom key names = .ok k) :
    k = Key.walk key names ∧ d.AreDirectories (Key.passed key names) := by
  induction names generalizing key with
  | nil => exact ⟨(Except.ok.inj h).symm, by simp [AreDirectories, Key.passed]⟩
  | cons name rest ih =>
    rcases hentry : d.get? key with _ | _ | bytes
    · simp only [resolveFrom, hentry] at h
      cases h
    · by_cases hlong : longestName < name.utf8ByteSize
      · simp only [resolveFrom, hentry, if_pos hlong] at h
        cases h
      · rw [resolveFrom_cons hentry hlong] at h
        obtain ⟨hk, hrest⟩ := ih h
        exact ⟨hk, List.forall_mem_cons.2 ⟨hentry, hrest⟩⟩
    · simp only [resolveFrom, hentry] at h
      cases h

/-- Where every key on the way is a directory, only a limit can stop a walk. -/
theorem resolveFrom_of_directories (h : d.AreDirectories (Key.passed key names)) :
    d.resolveFrom key names = .ok (Key.walk key names) ∨
      ∃ error, error.IsLimit ∧ d.resolveFrom key names = .error error := by
  induction names generalizing key with
  | nil => exact .inl rfl
  | cons name rest ih =>
    obtain ⟨hkey, hrest⟩ := List.forall_mem_cons.1 h
    by_cases hlong : longestName < name.utf8ByteSize
    · exact .inr ⟨.nameTooLong, .inr rfl, by simp only [resolveFrom, hkey, if_pos hlong]⟩
    · rw [resolveFrom_cons hkey hlong, Key.walk_cons]
      exact ih hrest

/-- The key of the directory in which the last name of a path is looked for. -/
def parentKey (d : Disk) (path : Path) : Key :=
  Key.walk (path.start d.workingDirectory) path.segments.dropLast

/-- The keys on the way to that directory. -/
def parentTrail (d : Disk) (path : Path) : List Key :=
  Key.trail (path.start d.workingDirectory) path.segments.dropLast

theorem directoryOf_ok {k : Key} (h : d.directoryOf path = .ok k) :
    k = d.parentKey path ∧ d.AreDirectories (d.parentTrail path) := by
  simp only [directoryOf] at h
  split at h
  · cases h
  · split at h
    · cases h
    · split at h
      · cases h
      · simp only [bind, Except.bind] at h
        split at h
        · cases h
        · rename_i k' hk'
          obtain ⟨hwalk, hpassed⟩ := resolveFrom_ok hk'
          split at h
          · cases h
          · cases h
          · rename_i hdirectory
            cases h
            refine ⟨hwalk, fun k'' hk'' => ?_⟩
            rcases List.mem_append.1 hk'' with hk'' | hk''
            · exact hpassed _ hk''
            · rw [List.mem_singleton.1 hk'']
              exact hwalk ▸ hdirectory

theorem text_ne_of_directoryOf {k : Key} (h : d.directoryOf path = .ok k) : path.text ≠ "" := by
  intro hempty
  simp [directoryOf, hempty, Bind.bind, Except.bind] at h

theorem directoryOf_of_directories (hne : path.text ≠ "")
    (h : d.AreDirectories (d.parentTrail path)) :
    d.directoryOf path = .ok (d.parentKey path) ∨
      ∃ error, error.IsLimit ∧ d.directoryOf path = .error error := by
  simp only [directoryOf]
  split
  · exact .inr ⟨.zeroInPath, .inl rfl, rfl⟩
  · split
    · exact .inr ⟨.nameTooLong, .inr rfl, rfl⟩
    · have hwalk := h _ (Key.walk_mem_trail _ _)
      have hpassed : d.AreDirectories (Key.passed (path.start d.workingDirectory)
          path.segments.dropLast) := fun k hk => h k (List.mem_append_left _ hk)
      rcases resolveFrom_of_directories hpassed with hok | ⟨error, hlimit, herror⟩
      · rw [Path.start] at hok hwalk
        simp only [hok, bind, Except.bind, hwalk]
        exact .inl rfl
      · rw [Path.start] at herror
        simp only [herror, bind, Except.bind]
        exact .inr ⟨error, hlimit, rfl⟩

/-! ## Limits -/

/-- A path within the limits of the system. -/
structure Fits (path : Path) : Prop where
  no_zero : '\x00' ∉ path.text.toList
  short : path.text.utf8ByteSize ≤ longestPath
  names : ∀ name ∈ path.segments, name.utf8ByteSize ≤ longestName

theorem short_of_resolveFrom {k : Key} (h : d.resolveFrom key names = .ok k) :
    ∀ name ∈ names, name.utf8ByteSize ≤ longestName := by
  induction names generalizing key with
  | nil => simp
  | cons name rest ih =>
    simp only [resolveFrom] at h
    split at h
    · cases h
    · cases h
    · split at h
      · cases h
      · rename_i hshort
        refine List.forall_mem_cons.2 ⟨Nat.le_of_not_lt hshort, ?_⟩
        split at h
        · exact ih h
        · split at h <;> exact ih h

theorem fits_of_directoryOf {k : Key} (h : d.directoryOf path = .ok k)
    (hlast : ∀ name, path.last = .name name → name.utf8ByteSize ≤ longestName) :
    Fits path := by
  simp only [directoryOf] at h
  split at h
  · cases h
  · rename_i hzero
    split at h
    · cases h
    · split at h
      · cases h
      · rename_i hshort
        simp only [bind, Except.bind] at h
        split at h
        · cases h
        · rename_i k' hk'
          refine ⟨by simpa using hzero, Nat.le_of_not_lt hshort, fun name hname => ?_⟩
          rcases List.eq_nil_or_concat path.segments with hnil | ⟨front, segment, hsegments⟩
          · rw [hnil] at hname
            exact absurd hname List.not_mem_nil
          · rw [List.concat_eq_append] at hsegments
            rw [hsegments] at hname
            rcases List.mem_append.1 hname with hname | hname
            · refine short_of_resolveFrom hk' name ?_
              rwa [hsegments, List.dropLast_concat]
            · rw [List.mem_singleton.1 hname]
              by_cases hhere : segment = "."
              · rw [hhere]; decide
              · by_cases hparent : segment = ".."
                · rw [hparent]; decide
                · refine hlast segment ?_
                  simp [Path.last, hsegments, Path.Component.ofSegment?, hhere, hparent]

theorem fits_of_resolve (h : d.resolve path = .ok key) : Fits path := by
  simp only [resolve, bind, Except.bind] at h
  split at h
  · cases h
  · rename_i hdirectory
    refine fits_of_directoryOf hdirectory fun name hname => ?_
    rw [hname, keyIn] at h
    split at h
    · cases h
    · rename_i hshort
      exact Nat.le_of_not_lt hshort

theorem fits_of_resolveName {refusal : Path.Component → FileError}
    (h : d.resolveName path refusal = .ok key) : Fits path := by
  simp only [resolveName, bind, Except.bind] at h
  split at h
  · cases h
  · rename_i hdirectory
    refine fits_of_directoryOf hdirectory fun name hname => ?_
    rw [hname] at h
    simp only [keyIn] at h
    split at h
    · cases h
    · rename_i hshort
      exact Nat.le_of_not_lt hshort

/-! ## Paths to entries -/

/-- A path that ends in a name and whose last name stands in a directory. -/
structure Names (d : Disk) (path : Path) (parent : Key) (name : String) : Prop where
  text_ne : path.text ≠ ""
  fits : Fits path
  plain : Path.IsPlain name
  key_eq : path.key d.workingDirectory = parent ++ [name]
  directory : d.get? parent = some .directory

theorem resolveName_ok {refusal : Path.Component → FileError}
    (h : d.resolveName path refusal = .ok key) :
    ∃ parent name, key = parent ++ [name] ∧ d.Names path parent name ∧
      d.AreDirectories (d.parentTrail path) := by
  have hfits := fits_of_resolveName h
  simp only [resolveName, bind, Except.bind] at h
  split at h
  · cases h
  · rename_i directory hdirectory
    obtain ⟨rfl, htrail⟩ := directoryOf_ok hdirectory
    split at h
    · rename_i text hlast
      simp only [keyIn] at h
      split at h
      · cases h
      · cases h
        exact ⟨_, text, rfl, ⟨text_ne_of_directoryOf hdirectory, hfits,
          (Path.of_last_eq_name hlast).1, Path.key_of_last hlast,
          htrail _ (Key.walk_mem_trail _ _)⟩, htrail⟩
    · cases h

/-- Where the way is open, a name is not missed. -/
theorem resolveName_ne_notFound (hne : path.text ≠ "") (h : d.AreDirectories (d.parentTrail path))
    (refusal : Path.Component → FileError) (hrefusal : ∀ c, refusal c ≠ .notFound) :
    d.resolveName path refusal ≠ .error .notFound := by
  intro herror
  simp only [resolveName, bind, Except.bind] at herror
  rcases directoryOf_of_directories hne h with hok | ⟨error, hlimit, hdirectory⟩
  · rw [hok] at herror
    simp only at herror
    split at herror
    · simp only [keyIn] at herror
      split at herror <;> cases herror
    · exact hrefusal _ (Except.error.inj herror)
  · rw [hdirectory] at herror
    exact hlimit.ne_notFound (Except.error.inj herror)

/-- What stands at the end of a path is found one step from where it is looked for. -/
theorem keyIn_ok {k : Key}
    (h : keyIn (Key.walk key path.segments.dropLast) path.last = .ok k) :
    k = Key.walk key path.segments := by
  rcases List.eq_nil_or_concat path.segments with hnil | ⟨front, segment, hsegments⟩
  · simp only [Path.last, hnil, List.getLast?_nil, keyIn] at h
    rw [hnil]
    exact (Except.ok.inj h).symm
  · simp only [Path.last, hsegments, List.concat_eq_append, List.getLast?_concat,
      List.dropLast_concat, Path.Component.ofSegment?] at h
    rw [hsegments, List.concat_eq_append, Key.walk_append]
    show k = Key.step (Key.walk key front) segment
    rw [Key.step]
    by_cases hhere : segment = "."
    · simp only [hhere, if_true, Option.getD_none, keyIn] at h
      rw [if_pos hhere]
      exact (Except.ok.inj h).symm
    · by_cases hparent : segment = ".."
      · simp only [hparent, if_true, keyIn] at h
        simp only [hparent]
        exact (Except.ok.inj h).symm
      · simp only [hhere, hparent, if_false, Option.getD_some, keyIn] at h
        rw [if_neg hhere, if_neg hparent]
        split at h
        · cases h
        · exact (Except.ok.inj h).symm

theorem resolve_ok (h : d.resolve path = .ok key) :
    key = path.key d.workingDirectory ∧ d.AreDirectories (d.parentTrail path) := by
  simp only [resolve, bind, Except.bind] at h
  split at h
  · cases h
  · rename_i directory hdirectory
    obtain ⟨rfl, htrail⟩ := directoryOf_ok hdirectory
    exact ⟨keyIn_ok h, htrail⟩

theorem text_ne_of_resolve (h : d.resolve path = .ok key) : path.text ≠ "" := by
  simp only [resolve, bind, Except.bind] at h
  split at h
  · cases h
  · rename_i hdirectory
    exact text_ne_of_directoryOf hdirectory

theorem find_ok {entry : Entry} (h : d.find path = .ok (key, entry)) :
    key = path.key d.workingDirectory ∧ d.get? key = some entry ∧
      d.AreDirectories (d.parentTrail path) := by
  simp only [find, bind, Except.bind] at h
  split at h
  · cases h
  · rename_i k hk
    obtain ⟨rfl, htrail⟩ := resolve_ok hk
    split at h
    · cases h
    · rename_i hentry
      cases h
      exact ⟨rfl, hentry, htrail⟩
    · rename_i bytes hentry
      split at h
      · cases h
      · cases h
        exact ⟨rfl, hentry, htrail⟩

/-! ## Open ways -/

/-- The way to a directory is open: every key on it, its own included, is a directory. -/
structure Leads (d : Disk) (path : Path) : Prop where
  text_ne : path.text ≠ ""
  fits : Fits path
  open_trail : d.AreDirectories (path.trail d.workingDirectory)

/-- The way to what a path leads to goes through the directory that it is looked for in. -/
theorem mem_parentTrail_of_mem_trail {k : Key} (h : k ∈ path.trail d.workingDirectory) :
    k ∈ d.parentTrail path ∨ k = path.key d.workingDirectory := by
  rw [Path.trail, Key.trail] at h
  rcases List.mem_append.1 h with h | h
  · rcases List.eq_nil_or_concat path.segments with hnil | ⟨front, segment, hsegments⟩
    · rw [hnil] at h
      exact absurd h List.not_mem_nil
    · rw [hsegments, List.concat_eq_append, Key.passed_concat] at h
      rw [parentTrail, hsegments, List.concat_eq_append, List.dropLast_concat]
      exact .inl h
  · exact .inr (List.mem_singleton.1 h)

theorem leads_of_find (h : d.find path = .ok (key, .directory)) : d.Leads path := by
  obtain ⟨rfl, hdirectory, htrail⟩ := find_ok h
  have hresolve : d.resolve path = .ok (path.key d.workingDirectory) := by
    simp only [find, bind, Except.bind] at h
    split at h
    · cases h
    · rename_i k hk
      rw [hk, (resolve_ok hk).1]
  refine ⟨text_ne_of_resolve hresolve, fits_of_resolve hresolve, fun k hk => ?_⟩
  · rcases mem_parentTrail_of_mem_trail hk with hk | rfl
    · exact htrail k hk
    · exact hdirectory

theorem Leads.directory (h : d.Leads path) :
    d.get? (path.key d.workingDirectory) = some .directory :=
  h.open_trail _ (Path.key_mem_trail _ _)

theorem mem_trail_of_mem_parentTrail {k : Key} (hk : k ∈ d.parentTrail path) :
    k ∈ path.trail d.workingDirectory := by
  rw [parentTrail] at hk
  rw [Path.trail]
  rcases List.eq_nil_or_concat path.segments with hnil | ⟨front, segment, hsegments⟩
  · rwa [hnil] at hk ⊢
  · rw [hsegments, List.concat_eq_append, List.dropLast_concat] at hk
    rw [hsegments, List.concat_eq_append]
    exact Key.mem_trail_append hk

theorem Leads.parentTrail (h : d.Leads path) : d.AreDirectories (d.parentTrail path) :=
  fun k hk => h.open_trail k (mem_trail_of_mem_parentTrail hk)

variable {name : String}

theorem parentTrail_entry (h : Path.IsPlain name) :
    d.parentTrail (path.entry name) = path.trail d.workingDirectory := by
  rw [parentTrail, Path.start_entry h, Path.segments_entry h, List.dropLast_concat, Path.trail]

theorem parentKey_entry (h : Path.IsPlain name) :
    d.parentKey (path.entry name) = path.key d.workingDirectory := by
  rw [parentKey, Path.start_entry h, Path.segments_entry h, List.dropLast_concat, Path.key]

theorem directoryOf_entry (hname : Path.IsPlain name)
    (h : d.AreDirectories (path.trail d.workingDirectory)) :
    d.directoryOf (path.entry name) = .ok (path.key d.workingDirectory) ∨
      ∃ error, error.IsLimit ∧ d.directoryOf (path.entry name) = .error error := by
  rw [← parentKey_entry hname]
  rw [← parentTrail_entry hname] at h
  exact directoryOf_of_directories (Path.text_entry_ne_empty hname) h

theorem resolveName_entry (hname : Path.IsPlain name)
    (h : d.AreDirectories (path.trail d.workingDirectory))
    (refusal : Path.Component → FileError) :
    d.resolveName (path.entry name) refusal = .ok (path.key d.workingDirectory ++ [name]) ∨
      ∃ error, error.IsLimit ∧ d.resolveName (path.entry name) refusal = .error error := by
  simp only [resolveName, bind, Except.bind]
  rcases directoryOf_entry hname h with hok | ⟨error, hlimit, herror⟩
  · simp only [hok, Path.last_entry hname, keyIn]
    split
    · exact .inr ⟨.nameTooLong, .inr rfl, rfl⟩
    · exact .inl rfl
  · simp only [herror]
    exact .inr ⟨error, hlimit, rfl⟩

theorem resolve_entry (hname : Path.IsPlain name)
    (h : d.AreDirectories (path.trail d.workingDirectory)) :
    d.resolve (path.entry name) = .ok (path.key d.workingDirectory ++ [name]) ∨
      ∃ error, error.IsLimit ∧ d.resolve (path.entry name) = .error error := by
  simp only [resolve, bind, Except.bind]
  rcases directoryOf_entry hname h with hok | ⟨error, hlimit, herror⟩
  · simp only [hok, Path.last_entry hname, keyIn]
    split
    · exact .inr ⟨.nameTooLong, .inr rfl, rfl⟩
    · exact .inl rfl
  · simp only [herror]
    exact .inr ⟨error, hlimit, rfl⟩

/-! ## Ways within the limits -/

theorem resolveFrom_of_short (h : d.AreDirectories (Key.passed key names))
    (hshort : ∀ name ∈ names, name.utf8ByteSize ≤ longestName) :
    d.resolveFrom key names = .ok (Key.walk key names) := by
  induction names generalizing key with
  | nil => rfl
  | cons name rest ih =>
    obtain ⟨hkey, hrest⟩ := List.forall_mem_cons.1 h
    obtain ⟨hname, hmore⟩ := List.forall_mem_cons.1 hshort
    rw [resolveFrom_cons hkey (Nat.not_lt.2 hname), Key.walk_cons]
    exact ih hrest hmore

theorem directoryOf_of_fits (hfits : Fits path) (hne : path.text ≠ "")
    (h : d.AreDirectories (d.parentTrail path)) :
    d.directoryOf path = .ok (d.parentKey path) := by
  have hwalk := h _ (Key.walk_mem_trail _ _)
  have hresolve := resolveFrom_of_short (fun k hk => h k (List.mem_append_left _ hk))
    fun name hname => hfits.names name ((List.dropLast_sublist _).subset hname)
  rw [Path.start] at hresolve hwalk
  have hzero : ¬ path.text.toList.contains '\x00' = true := by simpa using hfits.no_zero
  simp only [directoryOf, if_neg hzero, if_neg hne, if_neg (Nat.not_lt.2 hfits.short), hresolve,
    bind, Except.bind, hwalk]
  rfl

/-- An entry within the limits is found where it is looked for. -/
theorem resolve_of_fits (hname : Path.IsPlain name) (hfits : Fits (path.entry name))
    (h : d.AreDirectories (path.trail d.workingDirectory)) :
    d.resolve (path.entry name) = .ok (path.key d.workingDirectory ++ [name]) := by
  rw [← parentTrail_entry hname] at h
  have hlong : ¬ longestName < name.utf8ByteSize :=
    Nat.not_lt.2 (hfits.names name (by simp [Path.segments_entry hname]))
  simp only [resolve, bind, Except.bind,
    directoryOf_of_fits hfits (Path.text_entry_ne_empty hname) h, Path.last_entry hname, keyIn,
    if_neg hlong, parentKey_entry hname]

/-- Where the way is open, an entry that is not found is not there or beyond the limits. -/
theorem none_of_find_entry (hname : Path.IsPlain name)
    (h : d.AreDirectories (path.trail d.workingDirectory))
    (hfind : ∀ found, d.find (path.entry name) ≠ .ok found) :
    Fits (path.entry name) → d.get? (path.key d.workingDirectory ++ [name]) = none := by
  intro hfits
  by_contra hsome
  obtain ⟨entry, hentry⟩ := Option.ne_none_iff_exists'.1 hsome
  refine hfind (path.key d.workingDirectory ++ [name], entry) ?_
  simp only [find, bind, Except.bind, resolve_of_fits hname hfits h, hentry]
  cases entry with
  | directory => rfl
  | file bytes => simp [Path.endsInSlash_entry hname]

/-! ## Paths from the root -/

theorem segments_pathOf {key : Key} (h : ∀ name ∈ key, Path.IsPlain name) :
    (pathOf key).segments = key := by
  have hslash := Path.segments_append_slash "" (String.intercalate "/" key)
  rw [Path.segments_empty, List.nil_append, String.empty_append] at hslash
  rw [pathOf, hslash, Path.segments_intercalate fun name hname => (h name hname).no_slash]
  exact List.filter_eq_self.2 fun name hname => by simpa using (h name hname).ne_empty

theorem isAbsolute_pathOf (key : Key) : (pathOf key).isAbsolute = true := by
  simp [pathOf, Path.isAbsolute]

theorem pathOf_text_ne (key : Key) : (pathOf key).text ≠ "" := by
  simp [pathOf]

theorem key_pathOf {key home : Key} (h : ∀ name ∈ key, Path.IsPlain name) :
    (pathOf key).key home = key := by
  rw [Path.key, Path.start, isAbsolute_pathOf, segments_pathOf h]
  exact Key.walk_plain h _

theorem absolute_of_isAbsolute (h : path.isAbsolute = true) : d.absolute path = path := by
  simp [absolute, Path.join, h]

theorem isAbsolute_absolute (d : Disk) (path : Path) : (d.absolute path).isAbsolute = true := by
  by_cases h : path.isAbsolute = true
  · rw [absolute_of_isAbsolute h, h]
  · simp only [absolute, Path.join, Bool.eq_false_iff.2 h, Bool.false_or, decide_eq_true_eq,
      if_neg (pathOf_text_ne d.workingDirectory)]
    split <;> simp [pathOf, Path.isAbsolute]

theorem segments_absolute (hhome : ∀ name ∈ d.workingDirectory, Path.IsPlain name)
    (h : path.isAbsolute = false) :
    (d.absolute path).segments = d.workingDirectory ++ path.segments := by
  simp only [absolute, Path.join, h, Bool.false_or, decide_eq_true_eq,
    if_neg (pathOf_text_ne d.workingDirectory)]
  split
  · rename_i hslash
    obtain ⟨front, hfront⟩ := Path.endsInSlash_text hslash
    have hhome := segments_pathOf hhome
    have heq : pathOf d.workingDirectory = ⟨front ++ "/"⟩ := by rw [← hfront]
    rw [heq, Path.segments_slash_end] at hhome
    rw [hfront, Path.segments_append_slash, hhome]
  · rw [Path.segments_append_slash, segments_pathOf hhome]

/-- The absolute form of a path leads to the same key. -/
theorem key_absolute (hhome : ∀ name ∈ d.workingDirectory, Path.IsPlain name) (home : Key) :
    (d.absolute path).key home = path.key d.workingDirectory := by
  by_cases h : path.isAbsolute = true
  · rw [absolute_of_isAbsolute h, Path.key, Path.key, Path.start, Path.start, if_pos h, if_pos h]
  · rw [Path.key, Path.key, Path.start, Path.start, isAbsolute_absolute,
      segments_absolute hhome (Bool.eq_false_iff.2 h), if_pos rfl, if_neg h, Key.walk_append,
      Key.walk_plain hhome, List.nil_append]

/-- The way of a path is part of that of its absolute form. -/
theorem mem_trail_absolute (hhome : ∀ name ∈ d.workingDirectory, Path.IsPlain name) {home k : Key}
    (hk : k ∈ path.trail d.workingDirectory) : k ∈ (d.absolute path).trail home := by
  by_cases h : path.isAbsolute = true
  · rw [Path.trail, Path.start, if_pos h] at hk
    rwa [absolute_of_isAbsolute h, Path.trail, Path.start, if_pos h]
  · rw [Path.trail, Path.start, if_neg h] at hk
    rw [Path.trail, Path.start, isAbsolute_absolute, if_pos rfl,
      segments_absolute hhome (Bool.eq_false_iff.2 h), Key.trail_append, Key.walk_plain hhome,
      List.nil_append]
    exact List.mem_append_right _ hk

end Disk
end Exemplar
