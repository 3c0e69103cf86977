/-
Runs in which no fault is met.

A fault is an error that tells nothing of what is on the disk: a path or a name
beyond the limits, another device, or an answer of the system without a name.
Where none is met, operations do what they are for: a directory is removed with
all that is below it, and a sweep leaves nothing of what it is asked to remove.
-/
import Exemplar.Proofs.Installing

namespace Exemplar

/-- Whether an error tells nothing of what is on the disk. -/
def FileError.isFault : FileError → Bool
  | .zeroInPath | .nameTooLong | .otherDevice | .system .. => true
  | .about _ error => error.isFault
  | _ => false

theorem FileError.IsLimit.isFault {error : FileError} (h : error.IsLimit) :
    error.isFault = true := by
  rcases h with rfl | rfl <;> rfl

namespace Disk

variable {d d' : Disk} {path base : Path} {name : String} {key : Key}

/-- Whether a result is none of a fault. -/
def isFine {α : Type} : Except FileError α → Bool
  | .ok _ => true
  | .error error => !error.isFault

/-- Whether a disk meets no fault in answering a request, also where the answer would not tell. -/
def isFaultless (d : Disk) : Request → Bool
  | .kindOf path | .read path => isFine (d.find path)
  | .makeDirectory path => isFine (d.makeDirectory path)
  | .list path | .walk path => isFine (d.findDirectory path)
  | .locate path => isFine (d.locate path)
  | .write path bytes => isFine (d.write path bytes)
  | .newFile directory beginning ending =>
    isFine (d.newEntry directory beginning ending (.file ByteArray.empty)).1
  | .newDirectory directory beginning => isFine (d.newEntry directory beginning "" .directory).1
  | .removeFile path => isFine (d.removeFile path)
  | .removeDirectory path => isFine (d.removeDirectory path)
  | .rename source target => isFine (d.rename source target)
  | .clock | .processNumber => true

/-- A disk that carries out every request as it can and meets no fault. -/
def Faultless : System := fun r d reply d' => Action.Answered r d reply d' ∧ d.isFaultless r = true

theorem Faultless.happens {r : Request} {reply : r.Reply} (h : Faultless r d reply d') :
    Happens r d reply d' := .inl h.1

end Disk

namespace Action

open Disk

variable {α : Type} {program : Action α} {I : Disk → Prop} {Q : α → Disk → Prop} {d : Disk}

/-- Whether a run meets no fault. -/
def isFaultless : Action α → Disk → Bool
  | .done _, _ => true
  | .ask r next, d => d.isFaultless r && (next (d.answer r).1).isFaultless (d.answer r).2

/-- What holds on a disk without faults holds of a run that meets none. -/
theorem faultless_holds (h : Holds Faultless I program d Q) (hI : ∀ value d', Q value d' → I d')
    (hfaultless : program.isFaultless d = true) :
    Q (d.run program).1 (d.run program).2 ∧ ∀ d' ∈ program.states d, I d' := by
  induction program generalizing d with
  | done value => exact ⟨h, fun d' hd' => by rw [List.mem_singleton.1 hd']; exact hI _ _ h⟩
  | ask r next ih =>
    rw [isFaultless, Bool.and_eq_true] at hfaultless
    obtain ⟨hdone, hstates⟩ := ih _ (h.2 _ _ ⟨⟨rfl, rfl⟩, hfaultless.1⟩) hfaultless.2
    refine ⟨hdone, fun d' hd' => ?_⟩
    rcases List.mem_cons.1 hd' with rfl | hd'
    · exact h.1
    · exact hstates d' hd'

/-- A run that meets no fault ends as a disk without faults lets it end. -/
theorem ends_faultless (hfaultless : program.isFaultless d = true) :
    Ends Faultless program d (d.run program).1 (d.run program).2 := by
  induction program generalizing d with
  | done value => exact .done
  | ask r next ih =>
    rw [isFaultless, Bool.and_eq_true] at hfaultless
    exact .after ⟨⟨rfl, rfl⟩, hfaultless.1⟩ (ih _ hfaultless.2)

theorem ends_of_run {value : α} (hfaultless : program.isFaultless d = true)
    (hrun : (d.run program).1 = value) : Ends Faultless program d value (d.run program).2 :=
  hrun ▸ ends_faultless hfaultless

/-- The same of a run that is looked at once, for both. -/
theorem ends_of_run_and {value : α}
    (h : program.isFaultless d = true ∧ (d.run program).1 = value) :
    Ends Faultless program d value (d.run program).2 := ends_of_run h.1 h.2

end Action

namespace Disk

variable {d d' : Disk} {path base : Path} {name : String} {key : Key}

/-! ## What is found -/

theorem isFine_of_bind {α β : Type} {result : Except FileError α} {next : α → Except FileError β}
    (h : isFine (result >>= next) = true) : isFine result = true := by
  cases result with
  | error error => exact h
  | ok value => rfl

theorem not_isFine_of_limit {α : Type} {result : Except FileError α} {error : FileError}
    (hlimit : error.IsLimit) (hresult : result = .error error) : isFine result = false := by
  rw [hresult, isFine, hlimit.isFault]
  rfl

theorem find_entry (hname : Path.IsPlain name)
    (htrail : d.AreDirectories (base.trail d.workingDirectory))
    (hfine : isFine (d.find (base.entry name)) = true) :
    d.find (base.entry name) = match d.get? (base.key d.workingDirectory ++ [name]) with
      | none => .error .notFound
      | some entry => .ok (base.key d.workingDirectory ++ [name], entry) := by
  rcases resolve_entry hname htrail with hresolve | ⟨error, hlimit, hresolve⟩
  · simp only [find, bind, Except.bind, hresolve]
    cases d.get? (base.key d.workingDirectory ++ [name]) with
    | none => rfl
    | some entry =>
      cases entry with
      | directory => rfl
      | file bytes => simp [Path.endsInSlash_entry hname]
  · rw [not_isFine_of_limit hlimit (by simp [find, bind, Except.bind, hresolve])] at hfine
    cases hfine

theorem find_directory (hne : path.text ≠ "")
    (htrail : d.AreDirectories (path.trail d.workingDirectory))
    (hfine : isFine (d.find path) = true) :
    d.find path = .ok (path.key d.workingDirectory, .directory) := by
  have hparent : d.AreDirectories (d.parentTrail path) :=
    fun k hk => htrail k (mem_trail_of_mem_parentTrail hk)
  have hdirectory := htrail _ (Path.key_mem_trail _ _)
  rcases directoryOf_of_directories hne hparent with hof | ⟨error, hlimit, hof⟩
  · cases hkey : keyIn (d.parentKey path) path.last with
    | ok key =>
      have hkeyEq : key = path.key d.workingDirectory := keyIn_ok hkey
      subst hkeyEq
      simp [find, resolve, bind, Except.bind, hof, hkey, hdirectory]
    | error error =>
      have hlimit : error.IsLimit := by
        cases hlast : path.last with
        | name text =>
          rw [hlast, keyIn] at hkey
          split at hkey
          · exact .inr (Except.error.inj hkey).symm
          · cases hkey
        | _ => rw [hlast, keyIn] at hkey; cases hkey
      rw [not_isFine_of_limit hlimit (by simp [find, resolve, bind, Except.bind, hof, hkey])]
        at hfine
      cases hfine
  · rw [not_isFine_of_limit hlimit (by simp [find, resolve, bind, Except.bind, hof])] at hfine
    cases hfine

/-- An empty path leads nowhere. -/
theorem findDirectory_unnamed (hempty : path.text = "") :
    d.findDirectory path = .error .notFound := by
  have hof : d.directoryOf path = .error .notFound := by
    simp [directoryOf, hempty, bind, Except.bind]
  simp [findDirectory, find, resolve, bind, Except.bind, hof]

/-- All directories above a directory are there. -/
theorem directories_pathOf (hd : d.Sound) (hkey : d.get? key = some .directory) (home : Key) :
    d.AreDirectories ((pathOf key).trail home) := by
  have hplain : ∀ n ∈ key, Path.IsPlain n := hd.plain_of_get? (by rw [hkey]; simp)
  intro k hk
  rw [Path.trail, Path.start, isAbsolute_pathOf, if_pos rfl, segments_pathOf hplain] at hk
  obtain ⟨front, ⟨rest, rfl⟩, rfl⟩ := Key.mem_trail_plain hplain hk
  by_cases hempty : rest = []
  · rwa [hempty, List.append_nil] at hkey
  · exact hd.directory_above hempty (by rw [hkey]; simp)

/-! ## Entries that are removed -/

theorem removeFile_entry {bytes : ByteArray} (hname : Path.IsPlain name)
    (htrail : d.AreDirectories (base.trail d.workingDirectory))
    (hfile : d.get? (base.key d.workingDirectory ++ [name]) = some (.file bytes))
    (hfine : isFine (d.removeFile (base.entry name)) = true) :
    d.removeFile (base.entry name) = .ok (d.erase (base.key d.workingDirectory ++ [name])) := by
  rcases resolveName_entry hname htrail (fun _ => .isADirectory) with
    hresolve | ⟨error, hlimit, hresolve⟩
  · simp [removeFile, bind, Except.bind, hresolve, hfile, Path.endsInSlash_entry hname]
  · rw [not_isFine_of_limit hlimit (by simp [removeFile, bind, Except.bind, hresolve])] at hfine
    cases hfine

theorem removeDirectory_entry (hname : Path.IsPlain name)
    (htrail : d.AreDirectories (base.trail d.workingDirectory))
    (hdirectory : d.get? (base.key d.workingDirectory ++ [name]) = some .directory)
    (hempty : d.below (base.key d.workingDirectory ++ [name]) = [])
    (hfine : isFine (d.removeDirectory (base.entry name)) = true) :
    d.removeDirectory (base.entry name)
      = .ok (d.erase (base.key d.workingDirectory ++ [name])) := by
  rcases resolveName_entry hname htrail unnamed with hresolve | ⟨error, hlimit, hresolve⟩
  · simp [removeDirectory, bind, Except.bind, hresolve, hdirectory, hempty]
  · rw [not_isFine_of_limit hlimit (by simp [removeDirectory, bind, Except.bind, hresolve])]
      at hfine
    cases hfine

end Disk

namespace Files

open Exemplar.Action Disk

variable {d d' : Disk} {base : Path} {name : String} {key : Key}

/-- The requests by which what is at and below a key is removed. -/
def Removal (key : Key) (d : Disk) : Request → Prop
  | .locate path | .walk path | .removeFile path | .removeDirectory path =>
    key <+: path.key d.workingDirectory
  | _ => False

/-- A system that meets no fault in removing what is at and below a key. -/
structure Clears (R : System) (key : Key) : Prop where
  happens : ∀ r d reply d', R r d reply d' → Happens r d reply d'
  faultless : ∀ r d reply d', Removal key d r → R r d reply d' → Faultless r d reply d'

theorem Clears.answers {R : System} {r : Request} {reply : r.Reply} (h : Clears R key)
    (hanswer : R r d reply d') (hremoval : Removal key d r) : Faultless r d reply d' :=
  h.faultless _ _ _ _ hremoval hanswer

theorem clears_faultless (key : Key) : Clears Faultless key :=
  ⟨fun _ _ _ _ h => h.happens, fun _ _ _ _ _ h => h⟩

/-- What is still to be removed below a key, the deepest entries first. -/
structure Removes (d : Disk) (key : Key) (below : List (List String × Kind)) : Prop where
  mem_iff : ∀ names kind, (names, kind) ∈ below ↔
    names ≠ [] ∧ ∃ entry, d.get? (key ++ names) = some entry ∧ entry.kind = kind
  sorted : below.Pairwise fun a b => b.1.length ≤ a.1.length
  distinct : (below.map (·.1)).Nodup

theorem removes_reverse {below : List (List String × Kind)} (h : d.Lists key below) :
    Removes d key below.reverse :=
  ⟨fun names kind => by rw [List.mem_reverse, h.mem_iff], List.pairwise_reverse.2 h.sorted,
    by rw [List.map_reverse, List.nodup_reverse]; exact h.distinct⟩

/-- With the first entry erased, the others are still to be removed. -/
theorem Removes.tail {names : List String} {kind : Kind} {rest : List (List String × Kind)}
    (h : Removes d key ((names, kind) :: rest)) : Removes (d.erase (key ++ names)) key rest := by
  obtain ⟨hnames, -⟩ := (h.mem_iff names kind).1 List.mem_cons_self
  have hne : key ++ names ≠ [] := by simp [hnames]
  obtain ⟨hdistinct, hrest⟩ := List.nodup_cons.1 h.distinct
  have hother {names' : List String} (hne' : names' ≠ names) :
      (d.erase (key ++ names)).get? (key ++ names') = d.get? (key ++ names') := by
    rw [get?_erase hne, if_neg (fun heq => hne' (List.append_cancel_left heq))]
  refine ⟨fun names' kind' => ⟨fun hmem => ?_, fun hfound => ?_⟩,
    (List.pairwise_cons.1 h.sorted).2, hrest⟩
  · have hne' : names' ≠ names := by
      rintro rfl
      exact hdistinct (List.mem_map.2 ⟨_, hmem, rfl⟩)
    rw [hother hne']
    exact (h.mem_iff names' kind').1 (List.mem_cons_of_mem _ hmem)
  · have hne' : names' ≠ names := by
      rintro rfl
      obtain ⟨-, entry, hentry, -⟩ := hfound
      rw [get?_erase hne, if_pos rfl] at hentry
      cases hentry
    rw [hother hne'] at hfound
    rcases List.mem_cons.1 ((h.mem_iff names' kind').2 hfound) with heq | hmem
    · exact absurd (congrArg Prod.fst heq) hne'
    · exact hmem

/-- There is nothing below the first of the entries that are still to be removed. -/
theorem Removes.below_head (hd : d.Sound) {names : List String} {kind : Kind}
    {rest : List (List String × Kind)} (h : Removes d key ((names, kind) :: rest)) :
    d.below (key ++ names) = [] := by
  refine hd.below_eq_nil_iff.2 fun more hmore => ?_
  by_contra hsome
  obtain ⟨entry, hentry⟩ := Option.ne_none_iff_exists'.1 hsome
  rw [List.append_assoc] at hentry
  have hlength : 0 < more.length := List.length_pos_iff.2 hmore
  rcases List.mem_cons.1 ((h.mem_iff (names ++ more) entry.kind).2
    ⟨by simp [hmore], entry, hentry, rfl⟩) with heq | hmem
  · exact hmore (by simpa using congrArg Prod.fst heq)
  · have hle := (List.pairwise_cons.1 h.sorted).1 _ hmem
    simp only [List.length_append] at hle
    omega

/-- The way to an entry below a directory is open. -/
theorem directories_descend (hd : d.Sound) (hkey : d.get? key = some .directory)
    {front : List String} {last : String} (hplain : ∀ n ∈ front, Path.IsPlain n)
    (hsome : d.get? (key ++ front ++ [last]) ≠ none) (home : Key) :
    d.AreDirectories (((pathOf key).descend front).trail home) := by
  intro k hk
  rcases Path.mem_trail_descend hplain hk with hk | ⟨above, ⟨rest, rfl⟩, rfl⟩
  · exact directories_pathOf hd hkey home k hk
  · rw [key_pathOf (hd.plain_of_get? (by rw [hkey]; simp))]
    have hne : rest ++ [last] ≠ [] :=
      List.append_ne_nil_of_right_ne_nil rest (List.cons_ne_nil last [])
    refine hd.directory_above hne ?_
    simpa [List.append_assoc] using hsome

section Clears

variable {R : System} (hR : Clears R key)
include hR

theorem holds_removeEntry_clears (hd : d.Sound) (hkey : d.get? key = some .directory)
    {names : List String} {kind : Kind} {rest : List (List String × Kind)}
    (h : Removes d key ((names, kind) :: rest)) :
    Holds R (fun _ => True) (removeEntry ((pathOf key).descend names) kind) d
      fun result d' => result = .ok () ∧ d' = d.erase (key ++ names) := by
  obtain ⟨hnames, entry, hentry, hkind⟩ := (h.mem_iff names kind).1 List.mem_cons_self
  have hplain : ∀ n ∈ key ++ names, Path.IsPlain n := hd.plain_of_get? (by rw [hentry]; simp)
  have hbelow := h.below_head hd
  obtain ⟨front, last, rfl⟩ := List.eq_nil_or_concat names |>.resolve_left hnames
  rw [List.concat_eq_append] at *
  have hfront : ∀ n ∈ front, Path.IsPlain n := fun n hn => hplain n (by simp [hn])
  have hlast : Path.IsPlain last := hplain last (by simp)
  have hsome : d.get? (key ++ front ++ [last]) ≠ none := by
    rw [List.append_assoc, hentry]
    simp
  have htrail := directories_descend hd hkey hfront hsome d.workingDirectory
  have hat : ((pathOf key).descend front).key d.workingDirectory ++ [last]
      = key ++ (front ++ [last]) := by
    rw [Path.key_descend hfront, key_pathOf (hd.plain_of_get? (by rw [hkey]; simp)),
      List.append_assoc]
  have hpath : (pathOf key).descend (front ++ [last])
      = ((pathOf key).descend front).entry last := Path.descend_append _ _ _
  have hremoval : key <+: (((pathOf key).descend front).entry last).key d.workingDirectory := by
    rw [Path.key_entry hlast, hat]
    exact List.prefix_append ..
  rw [← hat] at hentry hbelow ⊢
  rw [hpath]
  cases entry with
  | directory =>
    cases hkind
    refine holds_request trivial fun reply d' hanswer => ?_
    obtain ⟨⟨hreply, hd'⟩, hfine⟩ := hR.answers hanswer hremoval
    rw [hreply, hd', answer, removeDirectory_entry hlast htrail hentry hbelow hfine]
    exact ⟨rfl, rfl⟩
  | file bytes =>
    cases hkind
    refine holds_request trivial fun reply d' hanswer => ?_
    obtain ⟨⟨hreply, hd'⟩, hfine⟩ := hR.answers hanswer hremoval
    rw [hreply, hd', answer, removeFile_entry hlast htrail hentry hfine]
    exact ⟨rfl, rfl⟩

omit hR in
theorem Removes.sound (hd : d.Sound) {names : List String} {kind : Kind}
    {rest : List (List String × Kind)} (h : Removes d key ((names, kind) :: rest)) :
    (d.erase (key ++ names)).Sound := by
  obtain ⟨hnames, -⟩ := (h.mem_iff names kind).1 List.mem_cons_self
  exact hd.erase (by simp [hnames])
    fun name => hd.below_eq_nil_iff.1 (h.below_head hd) [name] (by simp)

/-- Without faults everything is removed. -/
theorem holds_removeEntries_clears {below : List (List String × Kind)} (hd : d.Sound)
    (hkey : d.get? key = some .directory) (h : Removes d key below) :
    Holds R (fun _ => True) (removeEntries (pathOf key) below) d fun result d' =>
      result = .ok () ∧ d'.Sound ∧ d'.get? key = some .directory ∧ d'.below key = [] := by
  induction below generalizing d with
  | nil =>
    refine ⟨rfl, hd, hkey, hd.below_eq_nil_iff.2 fun names hnames => ?_⟩
    by_contra hsome
    obtain ⟨entry, hentry⟩ := Option.ne_none_iff_exists'.1 hsome
    exact absurd ((h.mem_iff names entry.kind).2 ⟨hnames, entry, hentry, rfl⟩) List.not_mem_nil
  | cons e rest ih =>
    obtain ⟨names, kind⟩ := e
    obtain ⟨hnames, -⟩ := (h.mem_iff names kind).1 List.mem_cons_self
    refine holds_bind.2 ((holds_removeEntry_clears hR hd hkey h).mono (fun _ h => h) ?_)
    rintro result d' ⟨rfl, rfl⟩
    refine ih (h.sound hd) ?_ h.tail
    rw [get?_erase (by simp [hnames]), if_neg (by simpa using hnames), hkey]

theorem holds_empty_clears (hd : d.Sound) (hkey : d.get? key = some .directory) :
    Holds R (fun _ => True) (empty (pathOf key)) d fun result d' =>
      result = .ok () ∧ d'.get? key = some .directory ∧ d'.below key = [] := by
  have hplain : ∀ n ∈ key, Path.IsPlain n := hd.plain_of_get? (by rw [hkey]; simp)
  refine holds_bind.2 (holds_request trivial fun reply d' hanswer => ?_)
  have hremoval : key <+: (pathOf key).key d.workingDirectory :=
    ⟨[], by rw [List.append_nil, key_pathOf hplain]⟩
  obtain ⟨⟨hreply, hd'⟩, hfine⟩ := hR.answers hanswer hremoval
  have hwalk := find_directory (pathOf_text_ne key) (directories_pathOf hd hkey _)
    (isFine_of_bind hfine)
  rw [key_pathOf hplain] at hwalk
  obtain rfl : d' = d := hd'
  obtain ⟨below, rfl⟩ : ∃ below, reply = .ok below := by
    rw [hreply, answer, findDirectory, hwalk]
    exact ⟨_, rfl⟩
  have hlists := (walk_ok hd hreply.symm).2
  rw [key_pathOf hplain] at hlists
  exact (holds_removeEntries_clears hR hd hkey (removes_reverse hlists)).mono (fun _ h => h)
    fun result d' h => ⟨h.1, h.2.2⟩

/-- Without faults nothing is left of a directory that is removed. -/
theorem holds_removeTree_clears (hkey : base.key d.workingDirectory ++ [name] = key)
    (hd : d.Sound) (hname : Path.IsPlain name)
    (htrail : d.AreDirectories (base.trail d.workingDirectory))
    (houtside : ∀ k ∈ base.trail d.workingDirectory, ¬ key <+: k)
    (hdirectory : d.get? key = some .directory) :
    Holds R (fun _ => True) (removeTree (base.entry name)) d fun result d' =>
      result = .ok () ∧ d'.get? key = none := by
  have hplain : ∀ n ∈ key, Path.IsPlain n := hd.plain_of_get? (by rw [hdirectory]; simp)
  have hremoval {d₁ : Disk} (h : d₁.workingDirectory = d.workingDirectory) :
      key <+: (base.entry name).key d₁.workingDirectory :=
    ⟨[], by rw [List.append_nil, h, Path.key_entry hname, hkey]⟩
  refine holds_bind.2 (holds_request trivial fun reply d₁ hanswer => ?_)
  obtain ⟨⟨hreply, hd₁⟩, hfine⟩ := hR.answers hanswer (hremoval rfl)
  have hfind := find_entry hname htrail (isFine_of_bind hfine)
  rw [hkey, hdirectory] at hfind
  rw [answer, locate, hfind] at hreply
  obtain rfl : reply = .ok (pathOf key) := hreply
  obtain rfl : d₁ = d := hd₁
  refine holds_bind.2 (((holds_empty_clears hR hd hdirectory).and
    ((holds_empty hd hplain).restrict hR.happens)).mono (fun _ _ => trivial) ?_)
  rintro result d' ⟨⟨rfl, htop, hbelow⟩, hconfined⟩
  have hhome := hconfined.home
  have htrail' : d'.AreDirectories (base.trail d'.workingDirectory) := by
    rw [hhome]
    exact hconfined.areDirectories houtside htrail
  refine holds_bind.2 (holds_request trivial fun reply d₂ hanswer => ?_)
  obtain ⟨⟨hreply, hd₂⟩, hfine⟩ := hR.answers hanswer (hremoval hhome)
  rw [← hhome] at hkey
  have hremoved := removeDirectory_entry hname htrail' (by rw [hkey]; exact htop)
    (by rw [hkey]; exact hbelow) hfine
  rw [answer, hremoved] at hreply hd₂
  obtain rfl : reply = .ok () := hreply
  obtain rfl : d₂ = d'.erase _ := hd₂
  refine ⟨rfl, ?_⟩
  rw [hkey, get?_erase (by simp [← hkey]), if_pos rfl]

end Clears

theorem holds_kindOf_faultless (hname : Path.IsPlain name)
    (htrail : d.AreDirectories (base.trail d.workingDirectory)) {I : Disk → Prop}
    {Q : Option Kind → Disk → Prop} (hI : I d)
    (h : Q ((d.get? (base.key d.workingDirectory ++ [name])).map Entry.kind) d) :
    Holds Faultless I (kindOf (base.entry name)) d Q := by
  refine holds_request hI fun reply d' hanswer => ?_
  obtain ⟨⟨hreply, hd'⟩, hfine⟩ := hanswer
  rw [answer, find_entry hname htrail hfine] at hreply
  obtain rfl : d' = d := hd'
  rw [hreply]
  cases hentry : d'.get? (base.key d'.workingDirectory ++ [name]) with
  | none => rwa [hentry] at h
  | some entry => rwa [hentry] at h

theorem holds_isDirectory_faultless (hname : Path.IsPlain name)
    (htrail : d.AreDirectories (base.trail d.workingDirectory)) {I : Disk → Prop}
    {Q : Bool → Disk → Prop} (hI : I d)
    (hdirectory : d.get? (base.key d.workingDirectory ++ [name]) = some .directory → Q true d)
    (hother : d.get? (base.key d.workingDirectory ++ [name]) ≠ some .directory → Q false d) :
    Holds Faultless I (isDirectory (base.entry name)) d Q := by
  refine holds_bind.2 (holds_kindOf_faultless hname htrail hI ?_)
  show Q (decide _) d
  cases hentry : d.get? (base.key d.workingDirectory ++ [name]) with
  | none => exact hother (by simp [hentry])
  | some entry =>
    cases entry with
    | directory => exact hdirectory hentry
    | file bytes => exact hother (by simp [hentry])

theorem holds_pathExists_faultless (hname : Path.IsPlain name)
    (htrail : d.AreDirectories (base.trail d.workingDirectory)) {I : Disk → Prop}
    {Q : Bool → Disk → Prop} (hI : I d)
    (hsome : d.get? (base.key d.workingDirectory ++ [name]) ≠ none → Q true d)
    (hnone : d.get? (base.key d.workingDirectory ++ [name]) = none → Q false d) :
    Holds Faultless I (pathExists (base.entry name)) d Q := by
  refine holds_bind.2 (holds_kindOf_faultless hname htrail hI ?_)
  cases hentry : d.get? (base.key d.workingDirectory ++ [name]) with
  | none => exact hnone hentry
  | some entry => exact hsome (by simp [hentry])

/-- Without faults a directory that cannot be made since it is there is taken as made. -/
theorem holds_orIfDirectory_faultless {path : Path} (hne : path.text ≠ "")
    (htrail : d.AreDirectories (path.trail d.workingDirectory)) (error : FileError)
    {I : Disk → Prop} {Q : Except FileError Unit → Disk → Prop} (hI : I d) (h : Q (.ok ()) d) :
    Holds Faultless I (makeDirectories.orIfDirectory path (.error error)) d Q := by
  refine holds_bind.2 (holds_bind.2 (holds_request hI fun reply d' hanswer => ?_))
  obtain ⟨⟨hreply, hd'⟩, hfine⟩ := hanswer
  rw [answer, find_directory hne htrail hfine] at hreply
  obtain rfl : d' = d := hd'
  rw [hreply]
  exact h

/-- Without faults a directory that is there already is found. -/
theorem holds_ensureDirectory_faultless {path : Path}
    (htrail : d.AreDirectories (path.trail d.workingDirectory)) {I : Disk → Prop}
    {Q : Except FileError Unit → Disk → Prop} (hI : I d) (h : Q (.ok ()) d) :
    Holds Faultless I (ensureDirectory path) d Q := by
  show Holds Faultless I (makeDirectories (path :: _)) d Q
  rw [makeDirectories]
  by_cases hempty : path.text = ""
  · rw [if_pos hempty]
    exact h
  · rw [if_neg hempty]
    refine holds_bind.2 (holds_request hI fun reply d' hreply => ?_)
    rcases happens_makeDirectory hreply.happens with ⟨rfl, hok⟩ | ⟨rfl, error, rfl, hnotFound⟩
    · obtain ⟨parent, name, hnames, -, hnone, -⟩ := makeDirectory_ok hok
      rw [← hnames.key_eq, htrail _ (Path.key_mem_trail _ _)] at hnone
      cases hnone
    · have hne : error ≠ .notFound := by
        intro heq
        exact makeDirectory_ne_notFound hempty
          (fun k hk => htrail k (mem_trail_of_mem_parentTrail hk)) (hnotFound heq)
      split
      · rename_i heq
        cases heq
      · rename_i heq
        exact absurd (Except.error.inj heq) hne
      · rename_i other heq
        exact holds_orIfDirectory_faultless hempty htrail _ hI h

end Files

namespace Store

open Exemplar.Action Disk Files

variable {d d' : Disk} {base : Path} {name : String}

/-- Without faults nothing is left of an entry that is removed, whatever it is. -/
theorem holds_removeAny_faultless (hd : d.Sound) (hname : Path.IsPlain name)
    (htrail : d.AreDirectories (base.trail d.workingDirectory))
    (houtside : ∀ k ∈ base.trail d.workingDirectory,
      ¬ base.key d.workingDirectory ++ [name] <+: k) :
    Holds Faultless (fun _ => True) (removeAny (base.entry name)) d fun _ d' =>
      d'.get? (base.key d.workingDirectory ++ [name]) = none := by
  refine holds_bind.2 (holds_isDirectory_faultless hname htrail trivial (fun hdirectory => ?_)
    fun hother => ?_)
  · have hcleared :=
      holds_removeTree_clears (clears_faultless _) rfl hd hname htrail houtside hdirectory
    exact hcleared.mono (fun _ h => h) fun _ _ h => h.2
  · refine holds_request trivial fun reply d' hreply => ?_
    cases hentry : d.get? (base.key d.workingDirectory ++ [name]) with
    | none =>
      rcases happens_removeFile hreply.happens with ⟨-, hok⟩ | ⟨rfl, -⟩
      · obtain ⟨parent, last, bytes, hnames, hfile, -⟩ := removeFile_ok hok
        rw [← hnames.key_eq, Path.key_entry hname, hentry] at hfile
        cases hfile
      · exact hentry
    | some entry =>
      cases entry with
      | directory => exact absurd hentry hother
      | file bytes =>
        obtain ⟨⟨-, hd'⟩, hfine⟩ := hreply
        rw [answer, removeFile_entry hname htrail hentry hfine] at hd'
        obtain rfl : d' = d.erase _ := hd'
        rw [get?_erase (by simp), if_pos rfl]

/-- What a sweep goes through is removed, and what is gone does not come back. -/
theorem holds_removeAll_faultless {names : List String} (hd : d.Sound)
    (hplain : ∀ n ∈ names, Path.IsPlain n)
    (htrail : d.AreDirectories (base.trail d.workingDirectory))
    (houtside : ∀ n ∈ names, ∀ k ∈ base.trail d.workingDirectory,
      ¬ base.key d.workingDirectory ++ [n] <+: k) :
    Holds Faultless (fun _ => True)
      ((names.map base.entry).forM fun path => do
        let _ ← removeAny path
        return ()) d fun _ d' =>
      (∀ n ∈ names, d'.get? (base.key d.workingDirectory ++ [n]) = none) ∧
        ∀ n, d.get? (base.key d.workingDirectory ++ [n]) = none →
          d'.get? (base.key d.workingDirectory ++ [n]) = none := by
  induction names generalizing d with
  | nil => exact ⟨by simp, fun n h => h⟩
  | cons name rest ih =>
    obtain ⟨hname, hrest⟩ := List.forall_mem_cons.1 hplain
    obtain ⟨houtside₁, houtside₂⟩ := List.forall_mem_cons.1 houtside
    have hframe : Holds Faultless (d.Confined (base.key d.workingDirectory ++ [name] <+: ·) Nowhere)
        (removeAny (base.entry name)) d fun _ d' =>
          d.Confined (base.key d.workingDirectory ++ [name] <+: ·) Nowhere d' := by
      refine (holds_removeAny (.refl hd) fun names => ?_).restrict fun _ _ _ _ h => h.happens
      rw [Path.key_entry hname]
      exact List.prefix_append ..
    refine holds_bind.2 (holds_bind.2 (((holds_removeAny_faultless hd hname htrail
      houtside₁).and hframe).mono (fun _ _ => trivial) fun _ d₁ ⟨hgone, h₁⟩ => ?_))
    have hhome : d₁.workingDirectory = d.workingDirectory := h₁.home
    -- Entries beside the one that was removed are as they were.
    have hkept (n : String) (hnone : d.get? (base.key d.workingDirectory ++ [n]) = none) :
        d₁.get? (base.key d.workingDirectory ++ [n]) = none := by
      by_cases hn : n = name
      · rw [hn, hgone]
      · rw [h₁.eq (fun hpre => ?_) fun h => h, hnone]
        have hpre' := hpre.trans (List.prefix_append _ ([] : List String))
        exact hn (sibling_iff.1 hpre').symm
    have htrail₁ := h₁.areDirectories houtside₁ htrail
    refine (ih h₁.sound hrest (by rwa [hhome]) (by rwa [hhome])).mono (fun _ h => h) ?_
    rw [hhome]
    rintro _ d₂ ⟨hall, hmore⟩
    refine ⟨fun n hn => ?_, fun n hnone => hmore n (hkept n hnone)⟩
    rcases List.mem_cons.1 hn with rfl | hn
    · exact hmore n hgone
    · exact hall n hn

/-- Without faults nothing stale is left after a sweep. -/
theorem holds_sweep_faultless (stale : Path → Bool) (hd : d.Sound) (hne : base.text ≠ "")
    (htrail : d.AreDirectories (base.trail d.workingDirectory))
    (houtside : ∀ n, Path.IsPlain n → stale (base.entry n) = true →
      ∀ k ∈ base.trail d.workingDirectory, ¬ base.key d.workingDirectory ++ [n] <+: k) :
    Holds Faultless (fun _ => True) (sweep base stale) d fun _ d' =>
      ∀ n, Path.IsPlain n → stale (base.entry n) = true →
        d'.get? (base.key d.workingDirectory ++ [n]) = none := by
  refine holds_bind.2 (holds_request trivial fun reply d' hanswer => ?_)
  obtain ⟨⟨hreply, hd'⟩, hfine⟩ := hanswer
  have hfind := find_directory hne htrail (isFine_of_bind hfine)
  obtain rfl : d' = d := hd'
  obtain ⟨names, rfl⟩ : ∃ names, reply = .ok names := by
    rw [hreply, answer, findDirectory, hfind]
    exact ⟨_, rfl⟩
  have hlist := (list_ok hd hreply.symm).2
  have hplain (n : String) (hn : n ∈ names) : Path.IsPlain n :=
    hd.plain_of_get? ((hlist n).1 hn) n (by simp)
  show Holds Faultless _ (((names.map base.entry).filter stale).forM _) d' _
  rw [List.filter_map]
  refine (holds_removeAll_faultless hd (fun n hn => hplain n (List.mem_filter.1 hn).1) htrail
    fun n hn => houtside n (hplain n (List.mem_filter.1 hn).1) (List.mem_filter.1 hn).2).mono
    (fun _ h => h) ?_
  rintro _ d₁ ⟨hall, hmore⟩ n hn hstale
  by_cases hmem : n ∈ names
  · exact hall n (List.mem_filter.2 ⟨hmem, hstale⟩)
  · refine hmore n ?_
    by_contra hsome
    exact hmem ((hlist n).2 hsome)

end Store

namespace Disk

variable {d : Disk} {a b : Path} {m n : String}

/-- Without faults an entry can be renamed to a name that lies neither above nor below, if it may
take the place of what is there. -/
theorem rename_entry_over {entry : Entry} (hm : Path.IsPlain m) (hn : Path.IsPlain n)
    (ha : d.AreDirectories (a.trail d.workingDirectory))
    (hb : d.AreDirectories (b.trail d.workingDirectory))
    (hentry : d.get? (a.key d.workingDirectory ++ [m]) = some entry)
    (hreplaceable : d.replaceable entry.kind (b.key d.workingDirectory ++ [n]) = .ok ())
    (habove : ¬ a.key d.workingDirectory ++ [m] <+: b.key d.workingDirectory ++ [n])
    (hbelow : ¬ b.key d.workingDirectory ++ [n] <+: a.key d.workingDirectory ++ [m])
    (hfine : isFine (d.rename (a.entry m) (b.entry n)) = true) :
    ∃ d', d.rename (a.entry m) (b.entry n) = .ok d' := by
  cases hrename : d.rename (a.entry m) (b.entry n) with
  | ok d' => exact ⟨d', rfl⟩
  | error error =>
    rw [hrename] at hfine
    have hne : a.key d.workingDirectory ++ [m] ≠ b.key d.workingDirectory ++ [n] :=
      fun heq => habove (heq ▸ List.prefix_refl _)
    have hnever {limit : FileError} (hlimit : limit.IsLimit) (heq : limit = error) : False := by
      rw [isFine, ← heq, hlimit.isFault] at hfine
      cases hfine
    exfalso
    simp only [rename, bind, Except.bind] at hrename
    rcases directoryOf_entry hm ha with hof | ⟨limit, hlimit, hof⟩
    swap
    · rw [hof] at hrename
      exact hnever hlimit (Except.error.inj hrename)
    rcases directoryOf_entry hn hb with hof' | ⟨limit, hlimit, hof'⟩
    swap
    · rw [hof, hof'] at hrename
      exact hnever hlimit (Except.error.inj hrename)
    simp only [hof, hof'] at hrename
    split at hrename
    · rw [← Except.error.inj hrename] at hfine
      cases hfine
    rcases resolveName_entry hm ha (fun _ => .busy) with hname | ⟨limit, hlimit, hname⟩
    swap
    · rw [hname] at hrename
      exact hnever hlimit (Except.error.inj hrename)
    rcases resolveName_entry hn hb (fun _ => .busy) with hname' | ⟨limit, hlimit, hname'⟩
    swap
    · rw [hname, hname'] at hrename
      exact hnever hlimit (Except.error.inj hrename)
    have habove' := mt List.isPrefixOf_iff_prefix.1 habove
    have hbelow' := mt List.isPrefixOf_iff_prefix.1 hbelow
    simp [hname, hname', renameKey, hentry, hne, habove', hbelow', hreplaceable,
      Path.endsInSlash_entry, hm, hn, bind, Except.bind] at hrename
    cases hrename

/-- Without faults an entry can be renamed to a vacant name. -/
theorem rename_entry (hm : Path.IsPlain m) (hn : Path.IsPlain n)
    (ha : d.AreDirectories (a.trail d.workingDirectory))
    (hb : d.AreDirectories (b.trail d.workingDirectory))
    (hfound : d.get? (a.key d.workingDirectory ++ [m]) ≠ none)
    (hvacant : d.get? (b.key d.workingDirectory ++ [n]) = none)
    (habove : ¬ a.key d.workingDirectory ++ [m] <+: b.key d.workingDirectory ++ [n])
    (hbelow : ¬ b.key d.workingDirectory ++ [n] <+: a.key d.workingDirectory ++ [m])
    (hfine : isFine (d.rename (a.entry m) (b.entry n)) = true) :
    ∃ d', d.rename (a.entry m) (b.entry n) = .ok d' := by
  obtain ⟨entry, hentry⟩ := Option.ne_none_iff_exists'.1 hfound
  exact rename_entry_over hm hn ha hb hentry (by simp [replaceable, hvacant]) habove hbelow hfine

end Disk
end Exemplar
