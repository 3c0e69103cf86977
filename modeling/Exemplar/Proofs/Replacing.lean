/-
When an artifact that was prepared in a scratch directory replaces the earlier one.

A sweep tells the scratch directory from what is stale by its path, and a scratch
directory is known by an absolute path.  So where no fault is met the replacement
succeeds if the directory of the artifacts is given by an absolute path, and fails
if it is given from the working directory, since then the sweep removes what was
prepared.  An empty path cannot be listed, so nothing is swept.
-/
import Exemplar.Proofs.Faultless
import Exemplar.Proofs.Staging

namespace Exemplar
namespace Store

open Exemplar.Action Disk Files

variable {s : Store} {home : Key} {name middle : String} {names : List String} {prepared : Path}
variable {d d' : Disk}

/-- What was prepared is still in its place, or stands under the name of the artifact. -/
def Survives (s : Store) (home : Key) (name : String) (σ : Key) (d d' : Disk) : Prop :=
  d'.tree σ = d.tree σ ∨ d'.tree (s.artifactKey home name) = d.tree σ

/-- The keys of the hidden entries of a fixture other than one. -/
def HiddenBut (s : Store) (home : Key) (name own : String) (k : Key) : Prop :=
  ∃ entry, Part.hidden.Names name entry ∧ entry ≠ own ∧
    s.artifactDirectory.key home ++ [entry] <+: k

theorem HiddenBut.changes {own : String} {k : Key} (h : s.HiddenBut home name own k) :
    s.Changes home name k := by
  obtain ⟨entry, hentry, -, hpre⟩ := h
  exact .inl ⟨entry, hentry, hpre⟩

/-- The keys that a replacement changes beside the scratch directory. -/
def Beside (s : Store) (home : Key) (name middle : String) (k : Key) : Prop :=
  s.HiddenBut home name (scratchBeginning name ++ middle) k ∨ s.Owns home .artifact name k

theorem Beside.changes {k : Key} (h : s.Beside home name middle k) : s.Changes home name k :=
  h.elim HiddenBut.changes .inr

theorem aside_beside {process : Nat} {k : Key} (h : s.asideKey home name process <+: k) :
    s.Beside home name middle k :=
  .inl ⟨_, names_neighbour name "replaced" process, (scratch_ne_neighbour (.inl rfl)).symm, h⟩

/-- Nothing that was prepared lies beside its scratch directory. -/
theorem not_beside (names rest : List String) :
    ¬ s.Beside home name middle (s.preparedKey home name middle names ++ rest) := by
  rw [preparedKey, List.append_assoc]
  rintro (⟨entry, -, hne, hpre⟩ | ⟨entry, hentry, hpre⟩)
  · exact hne (sibling_iff.1 hpre)
  · have hname : entry = name := hentry
    rw [hname] at hpre
    exact hidden_ne (scratchName_hidden name middle) (sibling_iff.1 hpre).symm

/-- What was prepared, ready to be moved: the way to it is open and leads through nothing that a
replacement changes. -/
structure Movable (s : Store) (home : Key) (name middle : String) (names : List String)
    (prepared : Path) (d : Disk) : Prop where
  sound : d.Sound
  home_eq : d.workingDirectory = home
  open_trail : d.AreDirectories (s.artifactDirectory.trail home)
  found : d.get? (s.preparedKey home name middle names) = some .directory
  exists_way : ∃ (base : Path) (last : String), Path.IsPlain last ∧ prepared = base.entry last ∧
    base.key home ++ [last] = s.preparedKey home name middle names ∧
    d.AreDirectories (base.trail home) ∧ ∀ k ∈ base.trail home, ¬ s.Beside home name middle k

theorem Movable.isPrepared (h : s.Movable home name middle names prepared d) :
    s.Prepared home name prepared (s.preparedKey home name middle names) := by
  obtain ⟨base, last, hlast, rfl, hkey, -⟩ := h.exists_way
  exact ⟨by rw [Path.key_entry hlast, hkey], middle, names, rfl⟩

section Movable

variable (hsite : s.Site home name)
include hsite

theorem Movable.mono (h : s.Movable home name middle names prepared d)
    (hconfined : d.Confined (s.Beside home name middle) Nowhere d') :
    s.Movable home name middle names prepared d' ∧
      d'.tree (s.preparedKey home name middle names)
        = d.tree (s.preparedKey home name middle names) := by
  have htree := hconfined.tree_eq (not_beside names) fun _ h => h
  obtain ⟨base, last, hlast, hprepared, hkey, hopen, hapart⟩ := h.exists_way
  refine ⟨⟨hconfined.sound, hconfined.home.trans h.home_eq, ?_, ?_, base, last, hlast, hprepared,
    hkey, hconfined.areDirectories hapart hopen, hapart⟩, htree⟩
  · exact hconfined.areDirectories (fun k hk hbeside => hsite.outside_changes hk hbeside.changes)
      h.open_trail
  · simpa [tree, h.found] using congrFun htree []

/-- Without faults what was prepared is moved to a vacant name. -/
theorem holds_moveIntoPlace_faultless (h : s.Movable home name middle names prepared d)
    (hvacant : d.get? (s.artifactKey home name) = none) {I : Disk → Prop} (hI : I d) :
    Holds Faultless I (s.moveIntoPlace name prepared (s.artifactPath name)).run d
      fun result d' => result = .ok ⟨⟩ ∧ d'.Sound ∧ d'.workingDirectory = home ∧
        d'.tree (s.artifactKey home name) = d.tree (s.preparedKey home name middle names) := by
  have hprepared := h.isPrepared.source
  have hhome := h.home_eq
  have hsource : prepared.key d.workingDirectory = s.preparedKey home name middle names := by
    rw [hhome, hprepared.key_eq]
  have htarget : (s.artifactPath name).key d.workingDirectory = s.artifactKey home name := by
    rw [hhome, key_artifactPath hsite.plain]
  have habove := hprepared.not_above_target []
  have hbelow := hprepared.not_below_target []
  rw [List.append_nil] at habove hbelow
  refine Work.holds_bind (Work.holds_ofAction (holds_rename (fun _ _ _ _ h => h.happens) h.sound
    hsource htarget (fun heq => habove (heq ▸ List.prefix_refl _)) hI ?_ ?_))
  · exact fun d' hconfined hmoved _ _ =>
      Work.holds_pure ⟨rfl, hconfined.sound, hconfined.home.trans hhome, hmoved⟩
  · rintro error ⟨⟨hreply, -⟩, hfine⟩
    obtain ⟨base, last, hlast, rfl, hkey, hopen, -⟩ := h.exists_way
    subst hhome
    obtain ⟨d', hrename⟩ := rename_entry hlast hsite.plain hopen h.open_trail
      (by rw [hkey, h.found]; simp) hvacant (by rwa [hkey]) (by rwa [hkey]) hfine
    rw [answer, artifactPath, hrename] at hreply
    cases hreply

/-- Without faults nothing is left where an earlier artifact is to be put aside, unless a file
stands there. -/
theorem holds_clearAside_faultless (h : s.Movable home name middle names prepared d) (process : Nat)
    (hfile : ∀ bytes, d.get? (s.asideKey home name process) ≠ some (.file bytes)) :
    Holds Faultless (fun _ => True)
      (clear (s.artifactDirectory.entry (neighbourName name "replaced" process))).run d
      fun result d' => result = .ok ⟨⟩ ∧ d'.get? (s.asideKey home name process) = none := by
  have hplain := isPlain_neighbour hsite.plain "replaced" (by decide) process
  obtain ⟨hsound, rfl, htrail, -, -⟩ := h
  refine Work.holds_bind (Work.holds_ofAction (holds_pathExists_faultless hplain htrail trivial
    (fun hsome => ?_) fun hnone => ⟨rfl, hnone⟩))
  have hdirectory : d.get? (s.asideKey d.workingDirectory name process) = some .directory := by
    obtain ⟨entry, hentry⟩ := Option.ne_none_iff_exists'.1 hsome
    cases entry with
    | directory => exact hentry
    | file bytes => exact absurd hentry (hfile bytes)
  refine Work.holds_within (Work.holds_ofFile
    ((holds_removeTree_clears (clears_faultless _) rfl hsound hplain htrail
      (fun k hk hpre => ?_) hdirectory).mono (fun _ h => h) ?_))
  · exact hsite.outside_changes hk (.inl ⟨_, names_neighbour name "replaced" process, hpre⟩)
  · rintro result d' ⟨rfl, hgone⟩
    exact ⟨rfl, hgone⟩

/-- A file cannot be cleared away. -/
theorem holds_clearAside_blocked (h : s.Movable home name middle names prepared d) {process : Nat}
    {bytes : ByteArray}
    (hfile : d.get? (s.asideKey home name process) = some (.file bytes)) :
    Holds Faultless (fun _ => True)
      (clear (s.artifactDirectory.entry (neighbourName name "replaced" process))).run d
      fun result _ => result ≠ .ok ⟨⟩ := by
  have hplain := isPlain_neighbour hsite.plain "replaced" (by decide) process
  obtain ⟨hsound, rfl, htrail, -, -⟩ := h
  refine Work.holds_bind (Work.holds_ofAction (holds_pathExists_faultless hplain htrail trivial
    (fun _ => ?_) fun hnone => ?_))
  · refine Work.holds_within (Work.holds_ofFile (holds_bind.2 (holds_request trivial
      fun reply d' hanswer => ?_)))
    obtain ⟨⟨hreply, -⟩, hfine⟩ := hanswer
    have hfind := find_entry hplain htrail (isFine_of_bind hfine)
    rw [← asideKey, hfile] at hfind
    rw [answer, locate, hfind] at hreply
    rw [hreply]
    exact fun hok => by cases hok
  · rw [← asideKey, hfile] at hnone
    cases hnone

/-- Without faults what was prepared takes the vacant name, and what was put aside is removed. -/
theorem holds_swapIn_faultless (h : s.Movable home name middle names prepared d) (process : Nat)
    (hvacant : d.get? (s.artifactKey home name) = none) :
    Holds Faultless (s.Survives home name (s.preparedKey home name middle names) d)
      (s.swapIn name prepared (s.artifactPath name)
        (s.artifactDirectory.entry (neighbourName name "replaced" process))).run d fun result d' =>
        result = .ok ⟨⟩ ∧ d'.tree (s.artifactKey home name)
          = d.tree (s.preparedKey home name middle names) := by
  have hplain := isPlain_neighbour hsite.plain "replaced" (by decide) process
  refine Work.holds_bind (Work.holds_onFailure ((holds_moveIntoPlace_faultless hsite h hvacant
    (.inl rfl)).mono (fun _ h => h) ?_))
  rintro result d' ⟨rfl, hsound, rfl, hmoved⟩
  have hkept {d''}
      (h : d'.Confined (s.asideKey d'.workingDirectory name process <+: ·) Nowhere d'') :
      d''.tree (s.artifactKey d'.workingDirectory name)
        = d.tree (s.preparedKey d'.workingDirectory name middle names) := by
    rw [h.tree_eq (not_aside_above process) fun _ h => h, hmoved]
  refine Work.holds_ofAction (holds_bind.2 (((holds_removeTree_alone hsound).restrict
    fun _ _ _ _ h => h.happens).mono (fun _ h => .inr (hkept ?_)) fun _ d'' h => ?_))
  · rwa [Path.key_entry hplain] at h
  · obtain ⟨h, -⟩ := h
    rw [Path.key_entry hplain] at h
    exact ⟨rfl, hkept h⟩

/-- The keys that stand in the way of putting the earlier artifact aside hold no file. -/
def CanPutAside (s : Store) (home : Key) (name : String) (d : Disk) : Prop :=
  ∀ bytes, d.get? (s.asideKey home name d.processNumber) ≠ some (.file bytes)

/-- Without faults an earlier artifact is put aside and replaced. -/
theorem holds_replaceExisting_faultless (h : s.Movable home name middle names prepared d)
    (hearlier : d.get? (s.artifactKey home name) ≠ none) (haside : s.CanPutAside home name d) :
    Holds Faultless (s.Survives home name (s.preparedKey home name middle names) d)
      (s.replaceExisting name prepared (s.artifactPath name)).run d fun result d' =>
        result = .ok ⟨⟩ ∧ d'.tree (s.artifactKey home name)
          = d.tree (s.preparedKey home name middle names) := by
  have hhome := h.home_eq
  refine Work.holds_bind (Work.holds_ofAction (holds_bind.2
    (holds_request (.inl rfl) fun process d' ⟨⟨hreply, hd'⟩, _⟩ => ?_)))
  obtain rfl : process = d.processNumber := hreply
  obtain rfl : d' = d := hd'
  have hplain := isPlain_neighbour hsite.plain "replaced" (by decide) d'.processNumber
  have hbeside {d₁} (h : d'.Confined (s.asideKey home name d'.processNumber <+: ·) Nowhere d₁) :
      d'.Confined (s.Beside home name middle) Nowhere d₁ := h.widen fun _ hk => aside_beside hk
  have hclear := (holds_clearAside_faultless hsite h d'.processNumber haside).and
    ((holds_clear hplain h.sound (by rw [hhome]; exact h.open_trail) fun k hk hpre =>
      hsite.outside_changes (hhome ▸ hk) (.inl ⟨_, names_neighbour name "replaced" _, hhome ▸ hpre⟩)
      ).restrict fun _ _ _ _ h => h.happens)
  rw [hhome] at hclear
  refine Work.holds_bind (hclear.mono
    (fun _ hconfined => .inl (h.mono hsite (hbeside hconfined.2)).2) ?_)
  rintro result d₁ ⟨⟨rfl, hvacant⟩, h₁, -⟩
  obtain ⟨hmovable₁, htree₁⟩ := h.mono hsite (hbeside h₁)
  have hhome₁ := hmovable₁.home_eq
  have htarget : (s.artifactPath name).key d₁.workingDirectory = s.artifactKey home name := by
    rw [hhome₁, key_artifactPath hsite.plain]
  have haside₁ : (s.artifactDirectory.entry
      (neighbourName name "replaced" d'.processNumber)).key d₁.workingDirectory
        = s.asideKey home name d'.processNumber := by rw [hhome₁, Path.key_entry hplain, asideKey]
  have hearlier₁ : d₁.get? (s.artifactKey home name) ≠ none := by
    rw [h₁.eq (by simpa [asideKey] using not_aside_above d'.processNumber []) fun h => h]
    exact hearlier
  refine Work.holds_bind (Work.holds_ofAction (holds_rename (fun _ _ _ _ h => h.happens)
    hmovable₁.sound htarget haside₁ (asideKey_ne_artifactKey _).symm (.inl htree₁) ?_ ?_))
  · intro d₂ hconfined _ hgone _
    have hbeside₂ : d₁.Confined (s.Beside home name middle) Nowhere d₂ := by
      refine hconfined.widen fun k hk => ?_
      exact hk.elim (fun hk => .inr ⟨name, rfl, hk⟩) aside_beside
    obtain ⟨hmovable₂, htree₂⟩ := hmovable₁.mono hsite hbeside₂
    have htree := htree₂.trans htree₁
    refine (holds_swapIn_faultless hsite hmovable₂ _ (by simpa [tree] using congrFun hgone [])).mono
      (fun d₃ h => ?_) fun result d₃ h => ⟨h.1, h.2.trans htree⟩
    rwa [Survives, htree] at h
  · rintro error ⟨⟨hreply, -⟩, hfine⟩
    have hne := hidden_ne (names_neighbour name "replaced" d'.processNumber)
    have hopen : d₁.AreDirectories (s.artifactDirectory.trail d₁.workingDirectory) := by
      rw [hhome₁]
      exact hmovable₁.open_trail
    obtain ⟨d₂, hrename⟩ := rename_entry hsite.plain hplain hopen hopen
      (by rw [hhome₁]; exact hearlier₁) (by rw [hhome₁]; exact hvacant)
      (fun hpre => hne (sibling_iff.1 (hpre.trans (List.prefix_append _ []))).symm)
      (fun hpre => hne (sibling_iff.1 (hpre.trans (List.prefix_append _ [])))) hfine
    rw [answer, artifactPath, hrename] at hreply
    cases hreply

/-- Where the earlier artifact cannot be put aside it is not replaced. -/
theorem holds_replaceExisting_blocked (h : s.Movable home name middle names prepared d)
    (haside : ¬ s.CanPutAside home name d) :
    Holds Faultless (fun _ => True) (s.replaceExisting name prepared (s.artifactPath name)).run d
      fun result _ => result ≠ .ok ⟨⟩ := by
  obtain ⟨bytes, hfile⟩ : ∃ bytes,
      d.get? (s.asideKey home name d.processNumber) = some (.file bytes) := by
    simpa [CanPutAside] using haside
  refine Work.holds_bind (Work.holds_ofAction (holds_bind.2
    (holds_request trivial fun process d' ⟨⟨hreply, hd'⟩, _⟩ => ?_)))
  obtain rfl : process = d.processNumber := hreply
  obtain rfl : d' = d := hd'
  refine Work.holds_bind ((holds_clearAside_blocked hsite h hfile).mono (fun _ h => h) ?_)
  rintro (failure | value) d₁ hne
  · exact fun hok => by cases hok
  · exact absurd rfl hne

/-- Without faults and with the leftovers swept away, what was prepared is installed, unless an
earlier artifact cannot be put aside. -/
theorem holds_replaceSwept_faultless (h : s.Movable home name middle names prepared d)
    (hfree : d.get? (s.artifactKey home name) = none ∨ s.CanPutAside home name d) :
    Holds Faultless (s.Survives home name (s.preparedKey home name middle names) d)
      (do
        if ← Work.ofAction (pathExists (s.artifactPath name)) then
          s.replaceExisting name prepared (s.artifactPath name)
        else s.moveIntoPlace name prepared (s.artifactPath name)
        return s.artifactPath name : Work Path).run d fun result d' =>
        result = .ok (s.artifactPath name) ∧ d'.tree (s.artifactKey home name)
          = d.tree (s.preparedKey home name middle names) := by
  have hhome := h.home_eq
  have htrail := h.open_trail
  refine Work.holds_bind (Work.holds_ofAction (holds_pathExists_faultless hsite.plain
    (by rwa [hhome]) (.inl rfl) (fun hsome => ?_) fun hnone => ?_))
  · rw [hhome] at hsome
    refine Work.holds_bind ((holds_replaceExisting_faultless hsite h hsome
      (hfree.resolve_left hsome)).mono (fun _ h => h) ?_)
    rintro result d' ⟨rfl, htree⟩
    exact Work.holds_pure ⟨rfl, htree⟩
  · rw [hhome] at hnone
    refine Work.holds_bind ((holds_moveIntoPlace_faultless hsite h hnone (.inl rfl)).mono
      (fun _ h => h) ?_)
    rintro result d' ⟨rfl, -, -, htree⟩
    exact Work.holds_pure ⟨rfl, htree⟩

/-- An earlier artifact that cannot be put aside is in the way. -/
theorem holds_replaceSwept_blocked (h : s.Movable home name middle names prepared d)
    (hearlier : d.get? (s.artifactKey home name) ≠ none) (haside : ¬ s.CanPutAside home name d) :
    Holds Faultless (fun _ => True)
      (do
        if ← Work.ofAction (pathExists (s.artifactPath name)) then
          s.replaceExisting name prepared (s.artifactPath name)
        else s.moveIntoPlace name prepared (s.artifactPath name)
        return s.artifactPath name : Work Path).run d fun result _ =>
        result ≠ .ok (s.artifactPath name) := by
  have hhome := h.home_eq
  have htrail := h.open_trail
  refine Work.holds_bind (Work.holds_ofAction (holds_pathExists_faultless hsite.plain
    (by rwa [hhome]) trivial (fun _ => ?_) fun hnone => ?_))
  · refine Work.holds_bind ((holds_replaceExisting_blocked hsite h haside).mono (fun _ h => h) ?_)
    rintro (failure | value) d' hne
    · exact fun hok => by cases hok
    · exact absurd rfl hne
  · rw [hhome] at hnone
    exact absurd hnone hearlier

/-! ## With the sweep -/

/-- Stale entries of the directory of the artifacts are not on the way to it. -/
theorem stale_outside {entry : String} (hentry : Path.IsPlain entry)
    (hstale : isLeftover name prepared (s.artifactDirectory.entry entry) = true) :
    Part.hidden.Names name entry ∧ ∀ k ∈ s.artifactDirectory.trail home,
      ¬ s.artifactDirectory.key home ++ [entry] <+: k := by
  rw [isLeftover, Bool.and_eq_true, Path.nameBeginsWith, Path.nameChars_entry hentry,
    List.isPrefixOf_iff_prefix] at hstale
  exact ⟨hstale.1, fun k hk hpre => hsite.outside_changes hk (.inl ⟨entry, hstale.1, hpre⟩)⟩

/-- Without faults no leftover is there after a sweep. -/
theorem holds_sweepLeftovers_faultless (h : s.Movable home name middle names prepared d)
    (hne : s.artifactDirectory.text ≠ "") (change : Key → Prop)
    (hchange : ∀ entry, Path.IsPlain entry →
      isLeftover name prepared (s.artifactDirectory.entry entry) = true → ∀ rest,
        change (s.artifactDirectory.key home ++ [entry] ++ rest)) :
    Holds Faultless (d.Confined change Nowhere)
      (sweep s.artifactDirectory (isLeftover name prepared)) d fun _ d' =>
        d.Confined change Nowhere d' ∧ ∀ entry, Path.IsPlain entry →
          isLeftover name prepared (s.artifactDirectory.entry entry) = true →
            d'.get? (s.artifactDirectory.key home ++ [entry]) = none := by
  obtain ⟨hsound, rfl, htrail, -, -⟩ := h
  have hstart : d.Confined change Nowhere d := .refl hsound
  have hframe := (holds_sweep hstart hchange).restrict
    fun _ _ _ _ (h : Faultless _ _ _ _) => h.happens
  exact (hframe.and (holds_sweep_faultless _ hsound hne htrail fun n hn hstale =>
    (stale_outside hsite hn hstale).2)).mono (fun _ h => h.1) fun _ _ h => h

/-- A directory given by an absolute path is swept, but for the scratch directory. -/
theorem holds_replaceArtifact_absolute (hnames : ∀ n ∈ names, Path.IsPlain n)
    (hscratch : Path.IsPlain (scratchBeginning name ++ middle))
    (h : s.Movable home name middle names (s.preparedPath name middle names) d)
    (habsolute : s.artifactDirectory.isAbsolute = true) :
    Holds Faultless (s.Survives home name (s.preparedKey home name middle names) d)
      (s.replaceArtifact name (s.preparedPath name middle names)).run d fun result d' =>
        result = .ok (s.artifactPath name) ∧ d'.tree (s.artifactKey home name)
          = d.tree (s.preparedKey home name middle names) := by
  have hne : s.artifactDirectory.text ≠ "" := by
    intro hempty
    simp [Path.isAbsolute, hempty] at habsolute
  refine Work.holds_bind (Work.holds_within (Work.holds_ofFile
    (holds_ensureDirectory_faultless (by rw [h.home_eq]; exact h.open_trail) (.inl rfl) ?_)))
  refine Work.holds_bind (Work.holds_ofAction ((holds_sweepLeftovers_faultless hsite h hne
    (s.Beside home name middle) fun entry hentry hstale rest => ?_).mono
    (fun _ hconfined => .inl (h.mono hsite hconfined).2) ?_))
  · obtain ⟨hhidden, hother⟩ := (isLeftover_iff hscratch hnames hentry).1 hstale
    exact .inl ⟨entry, hhidden, hother, List.prefix_append ..⟩
  rintro _ d₂ ⟨h₂, hgone⟩
  obtain ⟨hmovable₂, htree₂⟩ := h.mono hsite h₂
  have haside : s.CanPutAside home name d₂ := by
    intro bytes hfile
    have hplain := isPlain_neighbour hsite.plain "replaced" (by decide) d₂.processNumber
    have hnone := hgone _ hplain ((isLeftover_iff hscratch hnames hplain).2
      ⟨names_neighbour name "replaced" _, (scratch_ne_neighbour (.inl rfl)).symm⟩)
    rw [← asideKey, hfile] at hnone
    cases hnone
  refine (holds_replaceSwept_faultless hsite hmovable₂ (.inr haside)).mono (fun d₃ h => ?_)
    fun result d₃ h => ⟨h.1, h.2.trans htree₂⟩
  rwa [Survives, htree₂] at h

/-- Where the directory is given from the working directory, what was prepared is swept away. -/
theorem holds_replaceArtifact_relative
    (hscratch : Path.IsPlain (scratchBeginning name ++ middle))
    (h : s.Movable home name middle names prepared d) (hprepared : prepared.isAbsolute = true)
    (hrelative : s.artifactDirectory.isAbsolute = false) (hne : s.artifactDirectory.text ≠ "") :
    Holds Faultless (fun _ => True) (s.replaceArtifact name prepared).run d fun result d' =>
      result = .ok (s.artifactPath name) →
        d'.tree (s.artifactKey home name) ≠ d.tree (s.preparedKey home name middle names) := by
  refine Work.holds_bind (Work.holds_within (Work.holds_ofFile
    (holds_ensureDirectory_faultless (by rw [h.home_eq]; exact h.open_trail) trivial ?_)))
  refine Work.holds_bind (Work.holds_ofAction ((holds_sweepLeftovers_faultless hsite h hne
    (s.Changes home name) fun entry hentry hstale rest => ?_).mono
    (fun _ _ => trivial) ?_))
  · exact .inl ⟨entry, (stale_outside hsite hentry hstale).1, List.prefix_append ..⟩
  rintro _ d₂ ⟨h₂, hgone⟩
  have hstale : isLeftover name prepared
      (s.artifactDirectory.entry (scratchBeginning name ++ middle)) = true := by
    have hstarts := Path.startsWith_relative hprepared
      ((Path.isAbsolute_entry hscratch).trans hrelative)
      (by rw [Path.components_entry hscratch]; simp)
    rw [isLeftover, hstarts, Path.nameBeginsWith, Path.nameChars_entry hscratch]
    exact Bool.and_eq_true_iff.2
      ⟨List.isPrefixOf_iff_prefix.2 (scratchName_hidden name middle), rfl⟩
  have hlost : d₂.tree (s.preparedKey home name middle names) = fun _ => none :=
    h₂.sound.tree_of_none (h₂.sound.none_below (hgone _ hscratch hstale) names)
  refine (holds_replaceSwept (fun _ _ _ _ h => h.happens) hsite h.isPrepared.source h₂.sound
    (h₂.home.trans h.home_eq) ?_).mono (fun _ _ => trivial) ?_
  · exact h₂.areDirectories (fun k hk => hsite.outside_changes hk) h.open_trail
  · rintro result d₃ ⟨-, hinstalled⟩ hok heq
    have htop := congrFun heq []
    rw [(hinstalled _ hok).2, hlost, tree, List.append_nil, h.found] at htop
    cases htop

end Movable

/-- An empty path is neither made nor listed. -/
theorem holds_replaceArtifact_unnamed (hempty : s.artifactDirectory.text = "")
    {I : Disk → Prop} {Q : Attempt Path → Disk → Prop} (hI : I d)
    (h : Holds Faultless I
      (do
        if ← Work.ofAction (pathExists (s.artifactPath name)) then
          s.replaceExisting name prepared (s.artifactPath name)
        else s.moveIntoPlace name prepared (s.artifactPath name)
        return s.artifactPath name : Work Path).run d Q) :
    Holds Faultless I (s.replaceArtifact name prepared).run d Q := by
  have hensure : ensureDirectory s.artifactDirectory = pure (.ok ()) := by
    show makeDirectories (s.artifactDirectory :: _) = _
    rw [makeDirectories, if_pos hempty]
  refine Work.holds_bind (Work.holds_within (Work.holds_ofFile ?_))
  rw [hensure]
  refine Work.holds_bind (Work.holds_ofAction (holds_bind.2
    (holds_request hI fun reply d' hanswer => ?_)))
  obtain ⟨⟨hreply, hd'⟩, -⟩ := hanswer
  have herror : reply = .error .notFound := by
    rw [hreply, answer, findDirectory_unnamed hempty]
    rfl
  obtain rfl : d' = d := hd'
  rw [herror]
  exact h

/-! ## From the scratch directory -/

/-- The way to the directory of the artifacts from the root does not lead through what an
installation may change either. -/
theorem Site.outside_absolute (hsite : s.Site d.workingDirectory name) (hd : d.Sound) {k : Key}
    (hk : k ∈ (d.absolute s.artifactDirectory).trail d.workingDirectory) :
    ¬ s.Changes d.workingDirectory name k := by
  by_cases habsolute : s.artifactDirectory.isAbsolute = true
  · rw [absolute_of_isAbsolute habsolute] at hk
    exact hsite.outside_changes hk
  · -- The way leads down to the working directory first, which is on the way of the path itself.
    have hstart : s.artifactDirectory.trail d.workingDirectory
        = Key.trail d.workingDirectory s.artifactDirectory.segments := by
      rw [Path.trail, Path.start, if_neg habsolute]
    have htrail : (d.absolute s.artifactDirectory).trail d.workingDirectory
        = Key.passed [] d.workingDirectory ++ s.artifactDirectory.trail d.workingDirectory := by
      rw [hstart, Path.trail, Path.start, isAbsolute_absolute, if_pos rfl,
        segments_absolute hd.home (Bool.eq_false_iff.2 habsolute), Key.trail_append,
        Key.walk_plain hd.home, List.nil_append]
    rw [htrail] at hk
    rcases List.mem_append.1 hk with hk | hk
    · obtain ⟨front, hfront, rfl⟩ := Key.mem_trail_plain hd.home (List.mem_append_left _ hk)
      intro hchanges
      refine hsite.outside_changes ?_ (hchanges.of_prefix hfront)
      rw [hstart]
      exact Key.self_mem_trail _ _
    · exact hsite.outside_changes hk

/-- What is found below a scratch directory is ready to be moved, by a path through any directory
path that leads to the directory of the artifacts. -/
theorem movable_of_found {directory : Path} (hd : d.Sound) (hhome : d.workingDirectory = home)
    (hkey : directory.key home = s.artifactDirectory.key home)
    (hopen : d.AreDirectories (s.artifactDirectory.trail home))
    (hway : d.AreDirectories (directory.trail home))
    (houtside : ∀ k ∈ directory.trail home, ¬ s.Changes home name k)
    (hscratch : Path.IsPlain (scratchBeginning name ++ middle))
    (hnames : ∀ n ∈ names, Path.IsPlain n)
    (hfound : d.get? (s.preparedKey home name middle names) = some .directory) :
    s.Movable home name middle names
      ((directory.entry (scratchBeginning name ++ middle)).descend names) d := by
  have hscratchKey : (directory.entry (scratchBeginning name ++ middle)).key home
      = s.artifactDirectory.key home ++ [scratchBeginning name ++ middle] := by
    rw [Path.key_entry hscratch, hkey]
  refine ⟨hd, hhome, hopen, hfound, ?_⟩
  obtain rfl | ⟨front, last, rfl⟩ := List.eq_nil_or_concat names
  · refine ⟨directory, _, hscratch, rfl, ?_, hway, fun k hk hbeside => ?_⟩
    · rw [hkey, preparedKey, List.append_nil]
    · exact houtside k hk hbeside.changes
  rw [List.concat_eq_append] at *
  have hfront : ∀ n ∈ front, Path.IsPlain n := fun n hn => hnames n (by simp [hn])
  -- Every key on the way is on the way to the directory, or stands above what is found.
  have hmem {k : Key} (hk : k ∈ ((directory.entry
      (scratchBeginning name ++ middle)).descend front).trail home) :
      k ∈ directory.trail home ∨ ∃ above, above <+: front ∧
        k = s.preparedKey home name middle above := by
    rcases Path.mem_trail_descend hfront hk with hk | ⟨above, habove, rfl⟩
    · rw [Path.trail_entry hscratch] at hk
      refine (List.mem_append.1 hk).imp_right fun hk => ⟨[], List.nil_prefix, ?_⟩
      rw [List.mem_singleton.1 hk, hscratchKey, preparedKey, List.append_nil]
    · exact .inr ⟨above, habove, by rw [hscratchKey, preparedKey]⟩
  refine ⟨_, last, hnames last (by simp), Path.descend_append _ _ _, ?_, fun k hk => ?_,
    fun k hk => ?_⟩
  · rw [Path.key_descend hfront, hscratchKey, preparedKey, List.append_assoc]
  · rcases hmem hk with hk | ⟨above, ⟨rest, rfl⟩, rfl⟩
    · exact hway k hk
    · refine hd.directory_above
        (List.append_ne_nil_of_right_ne_nil rest (List.cons_ne_nil last [])) ?_
      have hsplit : s.preparedKey home name middle above ++ (rest ++ [last])
          = s.preparedKey home name middle (above ++ rest ++ [last]) := by
        simp only [preparedKey, List.append_assoc]
      rw [hsplit, hfound]
      simp
  · rcases hmem hk with hk | ⟨above, -, rfl⟩
    · exact fun hbeside => houtside k hk hbeside.changes
    · exact fun hbeside => not_beside above [] (by rwa [List.append_nil])

/-- What was written below a new scratch directory is ready to be moved. -/
theorem movable_of_written {d₁ : Disk} (hsite : s.Site d₁.workingDirectory name) (hd : d₁.Sound)
    (hscratch : Path.IsPlain (scratchBeginning name ++ middle))
    (hnames : ∀ n ∈ names, Path.IsPlain n)
    (hopen : d₁.AreDirectories (s.artifactDirectory.trail d₁.workingDirectory))
    (hvacant : d₁.Vacant
      ((d₁.absolute s.artifactDirectory).entry (scratchBeginning name ++ middle)))
    (hwritten : d₁.Confined (s.artifactDirectory.key d₁.workingDirectory
      ++ [scratchBeginning name ++ middle] <+: ·) Nowhere d)
    (hfound : d.get? (s.preparedKey d₁.workingDirectory name middle names) = some .directory) :
    s.Movable d₁.workingDirectory name middle names
      (((d₁.absolute s.artifactDirectory).entry (scratchBeginning name ++ middle)).descend names)
      d := by
  have howned (k : Key) (hk : s.artifactDirectory.key d₁.workingDirectory
      ++ [scratchBeginning name ++ middle] <+: k) : s.Changes d₁.workingDirectory name k :=
    .inl ⟨_, scratchName_hidden name middle, hk⟩
  refine movable_of_found hwritten.sound hwritten.home (key_absolute hd.home _) ?_ ?_
    (fun k hk => hsite.outside_absolute hd hk) hscratch hnames hfound
  · exact hwritten.areDirectories (fun k hk hpre => hsite.outside_changes hk (howned k hpre)) hopen
  · refine hwritten.areDirectories (fun k hk hpre => hsite.outside_absolute hd hk (howned k hpre))
      fun k hk => hvacant.open_trail k ?_
    rw [Path.trail_entry hscratch]
    exact List.mem_append_left _ hk

/-- A replacement that succeeds and leaves what was prepared under the name of the artifact, without
losing it on the way. -/
structure Replaces (s : Store) (name : String) (prepared : Path) (d : Disk) : Prop where
  succeeds : (d.run (s.replaceArtifact name prepared).run).1 = .ok (s.artifactPath name)
  installed : (d.run (s.replaceArtifact name prepared).run).2.tree
    (s.artifactKey d.workingDirectory name) = d.tree (prepared.key d.workingDirectory)
  survives : ∀ d' ∈ (s.replaceArtifact name prepared).run.states d,
    s.Survives d.workingDirectory name (prepared.key d.workingDirectory) d d'

theorem replaces_of_holds
    (hfaultless : (s.replaceArtifact name prepared).run.isFaultless d = true)
    (h : Holds Faultless
      (s.Survives d.workingDirectory name (prepared.key d.workingDirectory) d)
      (s.replaceArtifact name prepared).run d fun result d' =>
        result = .ok (s.artifactPath name) ∧ d'.tree (s.artifactKey d.workingDirectory name)
          = d.tree (prepared.key d.workingDirectory)) : s.Replaces name prepared d := by
  obtain ⟨⟨hsucceeds, hinstalled⟩, hstates⟩ :=
    faultless_holds h (fun _ _ h => .inr h.2) hfaultless
  exact ⟨hsucceeds, hinstalled, hstates⟩

theorem not_replaces_of_holds
    (hfaultless : (s.replaceArtifact name prepared).run.isFaultless d = true)
    (h : Holds Faultless (fun _ => True) (s.replaceArtifact name prepared).run d fun result d' =>
      result = .ok (s.artifactPath name) → d'.tree (s.artifactKey d.workingDirectory name)
        ≠ d.tree (prepared.key d.workingDirectory)) : ¬ s.Replaces name prepared d :=
  fun hreplaces => (faultless_holds h (fun _ _ _ => trivial) hfaultless).1 hreplaces.succeeds
    hreplaces.installed

/-- Without faults what was written below a new scratch directory is installed as it is if the
directory of the artifacts is given by an absolute path.  It is swept away if the path is relative,
unless it is empty and nothing stands in the way of putting an earlier artifact aside. -/
theorem replacement_succeeds_iff {scratch : Path} {d₀ d₁ : Disk} (hd : d₀.Sound)
    (hsite : s.Site d₀.workingDirectory name)
    (hscratch : d₀.run (s.newScratch name).run = (.ok scratch, d₁))
    (hwritten : d₁.Confined (scratch.key d₁.workingDirectory <+: ·) Nowhere d)
    (hnames : ∀ n ∈ names, Path.IsPlain n)
    (hfound : d.get? ((scratch.descend names).key d.workingDirectory) = some .directory)
    (hfaultless : (s.replaceArtifact name (scratch.descend names)).run.isFaultless d = true) :
    s.Replaces name (scratch.descend names) d ↔
      s.artifactDirectory.isAbsolute = true ∨ s.artifactDirectory.text = "" ∧
        (d.get? (s.artifactKey d.workingDirectory name) = none ∨
          s.CanPutAside d.workingDirectory name d) := by
  have hholds : Holds Happens _ (s.newScratch name).run d₀ _ := holds_newScratch hsite.plain hd rfl
  have hnew := answered_holds (hholds.restrict fun _ _ _ _ h => .inl h)
  rw [hscratch] at hnew
  dsimp only at hnew
  obtain ⟨htouches, hnew⟩ := hnew
  obtain ⟨hopen, hvacant, middle, hplain, rfl⟩ := hnew scratch rfl
  have hhome : d.workingDirectory = d₁.workingDirectory := hwritten.home
  rw [← htouches.home] at hsite hopen
  have hkey : ((d₁.absolute s.artifactDirectory).entry (scratchBeginning name ++ middle)).key
      d₁.workingDirectory
        = s.artifactDirectory.key d₁.workingDirectory ++ [scratchBeginning name ++ middle] := by
    rw [Path.key_entry hplain, key_absolute htouches.sound.home]
  have hprepared : (((d₁.absolute s.artifactDirectory).entry
      (scratchBeginning name ++ middle)).descend names).key d.workingDirectory
        = s.preparedKey d.workingDirectory name middle names := by
    rw [hhome, Path.key_descend hnames, hkey, preparedKey]
  rw [hkey] at hwritten
  rw [hprepared, hhome] at hfound
  have hmovable := movable_of_written hsite htouches.sound hplain hnames hopen hvacant hwritten
    hfound
  rw [← hhome] at hmovable hsite
  by_cases habsolute : s.artifactDirectory.isAbsolute = true
  · refine iff_of_true (replaces_of_holds hfaultless ?_) (.inl habsolute)
    rw [hprepared]
    rw [absolute_of_isAbsolute habsolute] at hmovable ⊢
    exact holds_replaceArtifact_absolute hsite hnames hplain hmovable habsolute
  by_cases hempty : s.artifactDirectory.text = ""
  · by_cases hfree : d.get? (s.artifactKey d.workingDirectory name) = none ∨
        s.CanPutAside d.workingDirectory name d
    · refine iff_of_true (replaces_of_holds hfaultless ?_) (.inr ⟨hempty, hfree⟩)
      rw [hprepared]
      exact holds_replaceArtifact_unnamed hempty (.inl rfl)
        (holds_replaceSwept_faultless hsite hmovable hfree)
    · obtain ⟨hearlier, haside⟩ := not_or.1 hfree
      refine iff_of_false (not_replaces_of_holds hfaultless ?_) (by simp [habsolute, hfree])
      refine holds_replaceArtifact_unnamed hempty trivial
        ((holds_replaceSwept_blocked hsite hmovable hearlier haside).mono (fun _ h => h)
          fun _ _ hfails hok => absurd hok hfails)
  · refine iff_of_false (not_replaces_of_holds hfaultless ?_) (by simp [habsolute, hempty])
    rw [hprepared]
    refine holds_replaceArtifact_relative hsite hplain hmovable ?_
      (Bool.eq_false_iff.2 habsolute) hempty
    rw [Path.isAbsolute_descend hnames, Path.isAbsolute_entry hplain, isAbsolute_absolute]

/-! ## Three stores -/

/-- Predictions and artifacts in two directories at the root. -/
def plainStore : Store := ⟨⟨"/c"⟩, ⟨"/m"⟩⟩

/-- The directories are given from the working directory. -/
def relativeStore : Store := ⟨⟨"csv"⟩, ⟨"savedmodel"⟩⟩

/-- The directory of the artifacts has a name like that of staged predictions. -/
def nestedStore : Store := ⟨⟨"/c"⟩, ⟨"/c/.A-.csv.tmp"⟩⟩

/-- A disk with an earlier artifact of a fixture, and with one that was put aside by a run that was
cut off. -/
def littered : Disk :=
  ((({} : Disk).run (ensureDirectory ⟨"/m/A/1"⟩)).2.run (ensureDirectory ⟨"/m/.A.replaced-0"⟩)).2

theorem sound_ensureDirectory (hd : d.Sound) (path : Path) :
    (d.run (ensureDirectory path)).2.Sound := by
  have hholds : Holds Happens _ (ensureDirectory path) d _ := holds_ensureDirectory_alone hd
  exact (answered_holds (hholds.restrict fun _ _ _ _ h => .inl h)).1.sound

theorem sound_littered : littered.Sound :=
  sound_ensureDirectory (sound_ensureDirectory
    ⟨by simp, by simp, by simp, by simp [get?], by simp⟩ _) _

/-- A disk on which a directory with one file was written below another. -/
def filled (d : Disk) (scratch : Path) : Disk :=
  let made := (d.run (.request (.makeDirectory (scratch.entry "2")))).2
  (made.run (.request (.write ((scratch.entry "2").entry "weights") "3".toUTF8))).2

theorem confined_filled (hd : d.Sound) (scratch : Path) :
    d.Confined (scratch.key d.workingDirectory <+: ·) Nowhere (filled d scratch) := by
  have hkey (name : String) (hname : Path.IsPlain name) (base : Path) (home k : Key)
      (hk : k = (base.entry name).key home) : base.key home <+: k := by
    rw [hk, Path.key_entry hname]
    exact List.prefix_append ..
  have hmade : d.Confined (scratch.key d.workingDirectory <+: ·) Nowhere
      (d.run (.request (.makeDirectory (scratch.entry "2")))).2 := by
    refine (settles_commit d _).confined hd fun d' hok => ?_
    obtain ⟨parent, name, hnames, -, -, rfl⟩ := makeDirectory_ok hok
    refine (confined_put hd hnames fun _ => rfl).widen fun k hk => ?_
    rw [← hnames.key_eq] at hk
    exact hkey "2" (by decide) _ _ _ hk
  refine hmade.trans ?_
  rw [← hmade.home]
  refine (settles_commit _ _).confined hmade.sound fun d' hok => ?_
  refine (confined_write hmade.sound hok).widen fun k hk => ?_
  exact (hkey "2" (by decide) _ _ _ rfl).trans (hkey "weights" (by decide) _ _ _ hk)

/-- An earlier artifact is replaced, and only then. -/
theorem replacement_succeeds_absolute :
    ∃ d, littered.run (plainStore.newScratch "A").run = (.ok ⟨"/m/.A.scratch-000000"⟩, d) ∧
      plainStore.Replaces "A" ((Path.mk "/m/.A.scratch-000000").descend ["2"])
        (filled d ⟨"/m/.A.scratch-000000"⟩) := by
  have hscratch : littered.run (plainStore.newScratch "A").run = (.ok ⟨"/m/.A.scratch-000000"⟩,
      (littered.run (plainStore.newScratch "A").run).2) :=
    Prod.ext (by decide +kernel) rfl
  have hsite : plainStore.Site littered.workingDirectory "A" := ⟨by decide, by decide +kernel⟩
  have hholds : Holds Happens _ (plainStore.newScratch "A").run littered _ :=
    holds_newScratch (by decide) sound_littered rfl
  have hsound := (answered_holds (hholds.restrict fun _ _ _ _ h => .inl h)).1.sound
  exact ⟨_, hscratch, (replacement_succeeds_iff sound_littered hsite hscratch
    (confined_filled hsound _) (by decide) (by rfl) (by decide +kernel)).2 (.inl rfl)⟩

/-- A relative path is not told from the scratch directory below it, which is swept away with what
was prepared. -/
theorem replacement_sweeps_its_scratch :
    ∃ d, ({} : Disk).run (relativeStore.newScratch "A").run
        = (.ok ⟨"/savedmodel/.A.scratch-000000"⟩, d) ∧
      ((filled d ⟨"/savedmodel/.A.scratch-000000"⟩).get?
        ["savedmodel", ".A.scratch-000000", "2", "weights"]).isSome = true ∧
      (relativeStore.replaceArtifact "A" ((Path.mk "/savedmodel/.A.scratch-000000").descend
        ["2"])).run.isFaultless (filled d ⟨"/savedmodel/.A.scratch-000000"⟩) = true ∧
      ¬ relativeStore.Replaces "A" ((Path.mk "/savedmodel/.A.scratch-000000").descend ["2"])
        (filled d ⟨"/savedmodel/.A.scratch-000000"⟩) := by
  refine ⟨(({} : Disk).run (relativeStore.newScratch "A").run).2, Prod.ext (by decide +kernel) rfl,
    by decide +kernel, by decide +kernel, fun hreplaces => ?_⟩
  exact absurd hreplaces.succeeds (by decide +kernel)

end Store
end Exemplar
