/-
Installing an artifact on a disk on which every request can fail.

What stands under the name of an artifact is changed by renaming only: from the
scratch directory, from a complete copy of it, or back from where the earlier one
was put aside.  So at every moment there is nothing under the name, or what was
there before, or what was prepared, each of them whole, unless the earlier
artifact could not be put aside and had to be removed in its place.  Where an
installation succeeds, it is what was prepared.
-/
import Exemplar.Proofs.Copying

namespace Exemplar

namespace Disk

/-- What stands at and below a key. -/
def tree (d : Disk) (key : Key) : List String → Option Entry := fun rest => d.get? (key ++ rest)

variable {d d' : Disk} {key : Key} {change grow : Key → Prop}

theorem Confined.tree_eq (h : d.Confined change grow d') (hchange : ∀ rest, ¬ change (key ++ rest))
    (hgrow : ∀ rest, ¬ grow (key ++ rest)) : d'.tree key = d.tree key :=
  funext fun rest => h.eq (hchange rest) (hgrow rest)

theorem Sound.tree_of_none (h : d.Sound) (hnone : d.get? key = none) : d.tree key = fun _ => none :=
  funext fun rest => h.none_below hnone rest

/-- A renaming to another key takes all that is below along. -/
theorem rename_tree {source target : Path} (hd : d.Sound) (h : d.rename source target = .ok d')
    (hne : source.key d.workingDirectory ≠ target.key d.workingDirectory) :
    d'.tree (target.key d.workingDirectory) = d.tree (source.key d.workingDirectory) ∧
      d'.tree (source.key d.workingDirectory) = fun _ => none := by
  rcases rename_ok h with ⟨heq, -⟩ | ⟨old, parent, name, hmoves⟩
  · exact absurd heq hne
  · rw [hmoves.old_eq, hmoves.names.key_eq]
    exact ⟨funext fun rest => hmoves.get?_target hd rest,
      funext fun rest => hmoves.get?_source hd rest⟩

/-- Entries of one directory do not lie below each other. -/
theorem sibling_iff {directory : Key} {e f : String} {rest : List String} :
    directory ++ [e] <+: directory ++ [f] ++ rest ↔ e = f := by
  rw [List.append_assoc, List.prefix_append_right_inj, List.singleton_append,
    List.cons_prefix_cons]
  simp

end Disk

namespace Store

open Exemplar.Action Disk

/-- Where an artifact is installed: its directory is not reached through an entry that may be
removed on the way. -/
structure Site (s : Store) (home : Key) (name : String) : Prop where
  plain : Path.IsPlain name
  outside : ∀ k ∈ s.artifactDirectory.trail home,
    ¬ s.Owns home .hidden name k ∧ ¬ s.Owns home .artifact name k

/-- The names of scratch directories start like this. -/
def scratchBeginning (name : String) : String := hiddenBeginning name ++ "scratch-"

/-- Where an artifact can be installed from: a place that neither holds nor lies in the artifact or
a neighbour that the installation makes. -/
structure Source (s : Store) (home : Key) (name : String) (prepared : Path) (σ : Key) :
    Prop where
  key_eq : prepared.key home = σ
  not_above_target : ∀ rest, ¬ σ <+: s.artifactKey home name ++ rest
  not_below_target : ∀ rest, ¬ s.artifactKey home name <+: σ ++ rest
  not_neighbour : ∀ {purpose : String} {process : Nat},
    purpose = "replaced" ∨ purpose = "staging" → ∀ rest,
      ¬ s.artifactDirectory.key home ++ [neighbourName name purpose process] <+: σ ++ rest
  not_below_neighbour : ∀ {purpose : String} {process : Nat},
    purpose = "replaced" ∨ purpose = "staging" →
      ¬ σ <+: s.artifactDirectory.key home ++ [neighbourName name purpose process]

/-- What was prepared for a fixture below a scratch directory of its own. -/
structure Prepared (s : Store) (home : Key) (name : String) (prepared : Path) (σ : Key) :
    Prop where
  key_eq : prepared.key home = σ
  exists_names : ∃ middle names,
    σ = s.artifactDirectory.key home ++ [scratchBeginning name ++ middle] ++ names

variable {R : System} {s : Store} {home : Key} {name : String} {prepared : Path} {σ : Key}
variable {d d' : Disk}

/-- What an installation may change: the artifact and its hidden neighbours. -/
def Changes (s : Store) (home : Key) (name : String) (k : Key) : Prop :=
  s.Owns home .hidden name k ∨ s.Owns home .artifact name k

theorem Changes.of_prefix {k k' : Key} (h : s.Changes home name k) (hpre : k <+: k') :
    s.Changes home name k' := by
  obtain ⟨rest, rfl⟩ := hpre
  exact h.imp (fun h => h.below rest) fun h => h.below rest

theorem changes_artifactKey (s : Store) (home : Key) (name : String) :
    s.Changes home name (s.artifactKey home name) := .inr (owns_self (p := .artifact) rfl)

theorem changes_neighbourKey (s : Store) (home : Key) (name purpose : String) (process : Nat) :
    s.Changes home name
      (s.artifactDirectory.key home ++ [neighbourName name purpose process]) :=
  .inl (owns_self (p := .hidden) (names_neighbour name purpose process))

theorem hidden_ne {entry : String} (h : Part.hidden.Names name entry) : entry ≠ name := by
  rintro rfl
  have hlength := List.IsPrefix.length_le h
  have hdot : ".".toList.length = 1 := rfl
  rw [hiddenBeginning, String.toList_append, String.toList_append, List.length_append,
    List.length_append, hdot] at hlength
  omega

theorem scratch_ne_neighbour {middle purpose : String} {process : Nat}
    (hpurpose : purpose = "replaced" ∨ purpose = "staging") :
    scratchBeginning name ++ middle ≠ neighbourName name purpose process := by
  intro h
  have hlist := congrArg String.toList h
  simp only [scratchBeginning, neighbourName, String.toList_append, List.append_assoc,
    List.append_cancel_left_eq] at hlist
  rcases hpurpose with rfl | rfl <;> simp at hlist

namespace Prepared

theorem owns (h : s.Prepared home name prepared σ) (rest : List String) :
    s.Owns home .hidden name (σ ++ rest) := by
  obtain ⟨middle, names, rfl⟩ := h.exists_names
  rw [List.append_assoc]
  exact owns_entry (p := .hidden) (by simp [Part.Names, scratchBeginning, List.append_assoc]) _

/-- The scratch directory is neither the artifact nor a neighbour that the installation makes. -/
theorem source (h : s.Prepared home name prepared σ) : s.Source home name prepared σ := by
  obtain ⟨middle, names, hσ⟩ := h.exists_names
  refine ⟨h.key_eq, ?_, ?_, ?_, ?_⟩
  · intro rest hpre
    rw [hσ] at hpre
    have := sibling_iff.1 ((List.prefix_append _ _).trans hpre)
    have hlength := congrArg (fun e : String => e.toList.length) this
    simp [scratchBeginning, hiddenBeginning] at hlength
    omega
  · intro rest habove
    obtain ⟨entry, hentry, more, hmore⟩ := h.owns rest
    rw [← hmore] at habove
    exact hidden_ne hentry (sibling_iff.1 habove).symm
  · intro purpose process hpurpose rest hpre
    rw [hσ, List.append_assoc] at hpre
    exact scratch_ne_neighbour hpurpose (sibling_iff.1 hpre).symm
  · intro purpose process hpurpose hpre
    rw [hσ] at hpre
    have := sibling_iff.1 (((List.prefix_append _ _).trans hpre).trans
      (List.prefix_append _ ([] : List String)))
    exact scratch_ne_neighbour hpurpose this

end Prepared

/-- A place at and below which an installation may change nothing is apart from the artifact and
its neighbours. -/
theorem Source.of_unchanged
    (h : ∀ rest, ¬ s.Changes home name (prepared.key home ++ rest)) :
    s.Source home name prepared (prepared.key home) := by
  have hbelow {κ : Key} (hκ : s.Changes home name κ) (rest : List String) :
      ¬ κ <+: prepared.key home ++ rest :=
    fun hpre => h rest (hκ.of_prefix hpre)
  have habove {κ : Key} (hκ : s.Changes home name κ) (rest : List String) :
      ¬ prepared.key home <+: κ ++ rest := by
    rintro ⟨more, hmore⟩
    apply h more
    rw [hmore]
    exact hκ.of_prefix (List.prefix_append ..)
  refine ⟨rfl, habove (changes_artifactKey ..), hbelow (changes_artifactKey ..),
    fun _ => hbelow (changes_neighbourKey ..), fun {purpose process} _ => ?_⟩
  have hnot := habove (changes_neighbourKey s home name purpose process) []
  rwa [List.append_nil] at hnot

/-! ## Moving into place -/

/-- What moving a prepared artifact into place may change. -/
def MoveChanges (s : Store) (home : Key) (name : String) (σ k : Key) : Prop :=
  σ <+: k ∨ (∃ process,
    s.artifactDirectory.key home ++ [neighbourName name "staging" process] <+: k) ∨
    s.artifactKey home name <+: k

/-- On the way into place there stands under the name what was there before, or what was
prepared. -/
structure Moving (s : Store) (home : Key) (name : String) (σ : Key) (d d' : Disk) : Prop where
  confined : d.Confined (s.MoveChanges home name σ) Nowhere d'
  whole : d'.tree (s.artifactKey home name) = d.tree (s.artifactKey home name) ∨
    d'.tree (s.artifactKey home name) = d.tree σ

theorem MoveChanges.changes {k : Key} (hk : s.MoveChanges home name σ k) :
    σ <+: k ∨ s.Changes home name k := by
  rcases hk with hpre | ⟨process, rest, rfl⟩ | ⟨rest, rfl⟩
  · exact .inl hpre
  · exact .inr (.inl (owns_entry (p := .hidden) (names_neighbour name "staging" process) rest))
  · exact .inr (.inr (owns_artifactKey s home name rest))

theorem MoveChanges.not_aside (h : s.Source home name prepared σ) (process : Nat)
    (rest : List String) : ¬ s.MoveChanges home name σ
      (s.artifactDirectory.key home ++ [neighbourName name "replaced" process] ++ rest) := by
  rintro (hpre | ⟨process', hpre⟩ | hpre)
  · refine not_prefix_append ?_ ?_ rest hpre
    · exact h.not_below_neighbour (.inl rfl)
    · simpa using h.not_neighbour (.inl rfl) []
  · have heq := congrArg String.toList (sibling_iff.1 hpre)
    simp [neighbourName, List.append_assoc] at heq
  · exact hidden_ne (names_neighbour name "replaced" process) (sibling_iff.1 hpre).symm

/-- The way to the directory of the artifacts is not among what an installation may change. -/
theorem Site.outside_changes (hsite : s.Site home name) {k : Key}
    (hk : k ∈ s.artifactDirectory.trail home) : ¬ s.Changes home name k := by
  rintro (h | h)
  · exact (hsite.outside k hk).1 h
  · exact (hsite.outside k hk).2 h

/-- A renaming takes all that is below along, or changes nothing. -/
theorem holds_rename (hR : ∀ r d reply d', R r d reply d' → Happens r d reply d')
    {source target : Path} {α β : Key} (hd : d.Sound)
    (hsource : source.key d.workingDirectory = α) (htarget : target.key d.workingDirectory = β)
    (hne : α ≠ β) {I : Disk → Prop} {Q : Except FileError Unit → Disk → Prop} (hI : I d)
    (hok : ∀ d', d.Confined (fun k => α <+: k ∨ β <+: k) Nowhere d' → d'.tree β = d.tree α →
      (d'.tree α = fun _ => none) → R (.rename source target) d (.ok ()) d' → Q (.ok ()) d')
    (herror : ∀ error, R (.rename source target) d (.error error) d → Q (.error error) d) :
    Holds R I (.request (.rename source target)) d Q := by
  refine holds_request hI fun reply d' hreply => ?_
  rcases happens_rename (hR _ _ _ _ hreply) with ⟨rfl, hrenamed⟩ | ⟨rfl, error, rfl, -⟩
  · have hmoved := rename_tree hd hrenamed (by rwa [hsource, htarget])
    have hconfined := confined_rename hd hrenamed
    rw [hsource, htarget] at hmoved hconfined
    exact hok d' hconfined hmoved.1 hmoved.2 hreply
  · exact herror error hreply

section Installation

variable (hR : ∀ r d reply d', R r d reply d' → Happens r d reply d')
variable (hsite : s.Site home name) (hsource : s.Source home name prepared σ)
include hR hsite hsource

theorem holds_copyIntoPlace (hd : d.Sound) (hhome : d.workingDirectory = home)
    (htrail : d.AreDirectories (s.artifactDirectory.trail home)) :
    Holds R (s.Moving home name σ d)
      (s.copyIntoPlace name prepared (s.artifactPath name)).run d fun result d' =>
        s.Moving home name σ d d' ∧
          (result = .ok ⟨⟩ → d'.tree (s.artifactKey home name) = d.tree σ) := by
  subst hhome
  have hstart : s.Moving d.workingDirectory name σ d d := ⟨.refl hd, .inl rfl⟩
  have htarget : (s.artifactPath name).key d.workingDirectory
      = s.artifactKey d.workingDirectory name := key_artifactPath hsite.plain
  refine Work.holds_bind (Work.holds_ofAction (holds_bind.2
    (holds_request hstart fun process d' hreply => ?_)))
  obtain rfl := happens_processNumber (hR _ _ _ _ hreply)
  have hplain := isPlain_neighbour hsite.plain "staging" (by decide) process
  show Holds R _ (do
    clear (s.artifactDirectory.entry (neighbourName name "staging" process))
    copyTree prepared (s.artifactDirectory.entry (neighbourName name "staging" process))
    Work.within (.moving (s.artifactPath name)) (.ofFile (Action.request (.rename
      (s.artifactDirectory.entry (neighbourName name "staging" process)) (s.artifactPath name))))
    Work.within (.removing prepared) (.ofFile (Files.removeTree prepared)) : Work Unit).run _ _
  generalize hτ : s.artifactDirectory.key d'.workingDirectory
    ++ [neighbourName name "staging" process] = staging
  have hstaging : (s.artifactDirectory.entry (neighbourName name "staging" process)).key
      d'.workingDirectory = staging := by rw [Path.key_entry hplain, hτ]
  have hbelow (k : Key) (hk : staging <+: k) :
      s.MoveChanges d'.workingDirectory name σ k := .inr (.inl ⟨process, hτ ▸ hk⟩)
  -- Neither what was prepared nor the artifact lies below the copy.
  have hapart (rest : List String) : ¬ staging <+: σ ++ rest :=
    hτ ▸ hsource.not_neighbour (.inr rfl) rest
  have hapart' (rest : List String) :
      ¬ staging <+: s.artifactKey d'.workingDirectory name ++ rest := by
    rw [← hτ]
    exact fun hpre => hidden_ne (names_neighbour name "staging" process) (sibling_iff.1 hpre)
  have hcopying {d₂ : Disk} (h : d'.Confined (staging <+: ·) Nowhere d₂) :
      s.Moving d'.workingDirectory name σ d' d₂ :=
    ⟨h.widen hbelow, .inl (h.tree_eq hapart' fun _ h => h)⟩
  have hopen : ∀ k ∈ s.artifactDirectory.trail d'.workingDirectory, ¬ staging <+: k := by
    intro k hk hpre
    refine hsite.outside_changes hk (.inl ⟨_, names_neighbour name "staging" process, ?_⟩)
    exact hτ ▸ hpre
  refine Work.holds_bind (((holds_clear hplain hd htrail (by rwa [hτ])).restrict hR).mono
    (fun _ h => hcopying (hτ ▸ h)) ?_)
  rw [hτ]
  rintro (failure | value) d₁ ⟨h₁, hvacant⟩
  · exact ⟨hcopying h₁, fun hok => by cases hok⟩
  · have hhome := h₁.home
    have hpaths : CopyPaths d₁ prepared s.artifactDirectory
        (neighbourName name "staging" process) σ staging := by
      refine ⟨hplain, ?_, ?_, ?_, ?_, ?_, ?_⟩
      · rw [hhome, hsource.key_eq]
      · rw [hhome, hτ]
      · rw [hhome]
        exact h₁.areDirectories hopen htrail
      · rwa [hhome]
      · simpa using hapart []
      · exact hτ ▸ hsource.not_below_neighbour (.inr rfl)
    refine Work.holds_bind (((holds_copyTree hpaths h₁.sound ?_).restrict hR).mono
      (fun _ h => hcopying (h₁.trans h)) ?_)
    · exact hvacant rfl
    · rintro (failure | value) d₂ ⟨h₂, hcomplete⟩
      · exact ⟨hcopying (h₁.trans h₂), fun hok => by cases hok⟩
      · have hcopied : d₂.tree staging = d'.tree σ := by
          rw [← h₁.tree_eq hapart fun _ h => h]
          exact funext (hcomplete rfl)
        have hhome₂ : d₂.workingDirectory = d'.workingDirectory := h₂.home.trans hhome
        refine Work.holds_bind (Work.holds_within (Work.holds_ofFile (holds_rename hR h₂.sound
          (by rw [hhome₂, hstaging]) (by rw [hhome₂, htarget]) ?_ (hcopying (h₁.trans h₂)) ?_ ?_)))
        · intro heq
          exact hapart' [] (by rw [List.append_nil]; exact heq ▸ List.prefix_refl _)
        · intro d₃ hrenamed hmoved _ _
          have h₃ : d'.Confined (s.MoveChanges d'.workingDirectory name σ) Nowhere d₃ := by
            refine ((h₁.trans h₂).widen hbelow).trans
              (hrenamed.widen (fun k hk => ?_))
            exact hk.elim (hbelow k) fun hk => .inr (.inr hk)
          -- Removing what was prepared leaves the artifact alone.
          have hkept {d₄ : Disk} (h : d₃.Confined (σ <+: ·) Nowhere d₄) :
              s.Moving d'.workingDirectory name σ d' d₄ ∧
                d₄.tree (s.artifactKey d'.workingDirectory name) = d'.tree σ := by
            have htree : d₄.tree (s.artifactKey d'.workingDirectory name) = d'.tree σ := by
              rw [h.tree_eq hsource.not_above_target fun _ h => h, hmoved, hcopied]
            exact ⟨⟨h₃.trans (h.widen (fun k hk => .inl hk)), .inr htree⟩,
              htree⟩
          refine Work.holds_within (Work.holds_ofFile (((Files.holds_removeTree_alone
            h₃.sound).restrict hR).mono (fun _ h => (hkept ?_).1) ?_))
          · rwa [h₃.home, hsource.key_eq] at h
          · rw [h₃.home, hsource.key_eq]
            rintro (error | value) d₄ ⟨h₄, -⟩
            · exact ⟨(hkept h₄).1, fun _ => (hkept h₄).2⟩
            · exact ⟨(hkept h₄).1, fun _ => (hkept h₄).2⟩
        · exact fun error _ => ⟨hcopying (h₁.trans h₂), fun hok => by cases hok⟩

theorem holds_moveIntoPlace (hd : d.Sound) (hhome : d.workingDirectory = home)
    (htrail : d.AreDirectories (s.artifactDirectory.trail home)) :
    Holds R (s.Moving home name σ d)
      (s.moveIntoPlace name prepared (s.artifactPath name)).run d fun result d' =>
        s.Moving home name σ d d' ∧
          (result = .ok ⟨⟩ → d'.tree (s.artifactKey home name) = d.tree σ) := by
  have hstart : s.Moving home name σ d d := ⟨.refl hd, .inl rfl⟩
  have hkey : prepared.key d.workingDirectory = σ := by rw [hhome, hsource.key_eq]
  have htarget : (s.artifactPath name).key d.workingDirectory = s.artifactKey home name := by
    rw [hhome, key_artifactPath hsite.plain]
  have hne : σ ≠ s.artifactKey home name := by
    intro heq
    exact hsource.not_above_target [] (by rw [List.append_nil]; exact heq ▸ List.prefix_refl _)
  refine Work.holds_bind (Work.holds_ofAction (holds_rename hR hd hkey htarget hne hstart
    ?_ ?_))
  · intro d' hrenamed hmoved _ _
    refine Work.holds_pure ⟨⟨hrenamed.widen (fun k hk => ?_), .inr hmoved⟩,
      fun _ => hmoved⟩
    exact hk.elim .inl fun hk => .inr (.inr hk)
  · exact fun error _ => holds_copyIntoPlace hR hsite hsource hd hhome htrail

/-! ## Replacing -/

/-- The place to which an earlier artifact is put aside. -/
def asideKey (s : Store) (home : Key) (name : String) (process : Nat) : Key :=
  s.artifactDirectory.key home ++ [neighbourName name "replaced" process]

omit hR hsite hsource in
theorem asideKey_ne_artifactKey (process : Nat) :
    s.asideKey home name process ≠ s.artifactKey home name := by
  intro heq
  obtain ⟨-, hname⟩ := List.append_inj' heq rfl
  exact hidden_ne (names_neighbour name "replaced" process) (List.singleton_inj.1 hname)

omit hR hsite hsource in
theorem not_aside_above (process : Nat) (rest : List String) :
    ¬ s.asideKey home name process <+: s.artifactKey home name ++ rest := by
  intro hpre
  exact hidden_ne (names_neighbour name "replaced" process) (sibling_iff.1 hpre)

/-- While an earlier artifact is put aside, there stands under the name nothing, or what was
prepared, or the earlier one. -/
structure Swapping (s : Store) (home : Key) (name : String) (σ aside : Key) (d d' : Disk) :
    Prop where
  confined : d.Confined (fun k => σ <+: k ∨ s.Changes home name k) Nowhere d'
  whole : d'.tree (s.artifactKey home name) = d.tree (s.artifactKey home name) ∨
    d'.tree (s.artifactKey home name) = d.tree σ ∨
    d'.tree (s.artifactKey home name) = d.tree aside

theorem holds_swapIn (process : Nat) (hd : d.Sound) (hhome : d.workingDirectory = home)
    (htrail : d.AreDirectories (s.artifactDirectory.trail home)) :
    Holds R (s.Swapping home name σ (s.asideKey home name process) d)
      (s.swapIn name prepared (s.artifactPath name)
        (s.artifactDirectory.entry (neighbourName name "replaced" process))).run d fun result d' =>
        s.Swapping home name σ (s.asideKey home name process) d d' ∧
          (result = .ok ⟨⟩ → d'.tree (s.artifactKey home name) = d.tree σ) := by
  have hplain := isPlain_neighbour hsite.plain "replaced" (by decide) process
  have haside (d' : Disk) (h : d'.workingDirectory = home) :
      (s.artifactDirectory.entry (neighbourName name "replaced" process)).key d'.workingDirectory
        = s.asideKey home name process := by rw [h, Path.key_entry hplain, asideKey]
  have howns (k : Key) (hk : s.asideKey home name process <+: k) :
      σ <+: k ∨ s.Changes home name k :=
    .inr (.inl ⟨_, names_neighbour name "replaced" process, hk⟩)
  have hmoving {d'} (h : s.Moving home name σ d d') :
      s.Swapping home name σ (s.asideKey home name process) d d' :=
    ⟨h.confined.widen fun _ hk => hk.changes, h.whole.elim .inl fun h => .inr (.inl h)⟩
  refine Work.holds_bind (Work.holds_onFailure
    ((holds_moveIntoPlace hR hsite hsource hd hhome htrail).mono (fun _ h => hmoving h) ?_))
  rintro (failure | value) d₁ ⟨h₁, hdone⟩
  · -- What was put aside was not touched, so it can come back.
    have hkept : d₁.tree (s.asideKey home name process) = d.tree (s.asideKey home name process) :=
      h₁.confined.tree_eq (MoveChanges.not_aside hsource process) fun _ h => h
    have hhome₁ : d₁.workingDirectory = home := h₁.confined.home.trans hhome
    refine holds_bind.2 (holds_rename hR h₁.confined.sound (haside d₁ hhome₁)
      (by rw [hhome₁, key_artifactPath hsite.plain]) (asideKey_ne_artifactKey process) (hmoving h₁)
      ?_ ?_)
    · intro d₂ hrenamed hmoved _ _
      refine ⟨⟨(hmoving h₁).confined.trans (hrenamed.widen (fun k hk => ?_)),
        .inr (.inr (hmoved.trans hkept))⟩, fun hok => by cases hok⟩
      exact hk.elim (howns k) fun hk => .inr (.inr ⟨name, rfl, hk⟩)
    · exact fun error _ => ⟨hmoving h₁, fun hok => by cases hok⟩
  · have hdone := hdone rfl
    have hhome₁ : d₁.workingDirectory = home := h₁.confined.home.trans hhome
    have hremoved {d₂} (h : d₁.Confined (s.asideKey home name process <+: ·) Nowhere d₂) :
        s.Swapping home name σ (s.asideKey home name process) d d₂ ∧
          d₂.tree (s.artifactKey home name) = d.tree σ := by
      have htree : d₂.tree (s.artifactKey home name) = d.tree σ := by
        rw [h.tree_eq (not_aside_above process) fun _ h => h, hdone]
      exact ⟨⟨(hmoving h₁).confined.trans (h.widen howns), .inr (.inl htree)⟩,
        htree⟩
    refine Work.holds_ofAction (holds_bind.2 (((Files.holds_removeTree_alone
      h₁.confined.sound).restrict hR).mono (fun _ h => (hremoved ?_).1) ?_))
    · rwa [haside d₁ hhome₁] at h
    · rw [haside d₁ hhome₁]
      exact fun result d₂ h₂ => ⟨(hremoved h₂.1).1, fun _ => (hremoved h₂.1).2⟩

end Installation

/-- Renaming the earlier artifact aside never fails. -/
def PutsAside (R : System) (s : Store) (name : String) : Prop :=
  ∀ process d reply d', R (.rename (s.artifactPath name)
    (s.artifactDirectory.entry (neighbourName name "replaced" process))) d reply d' →
      reply = .ok ()

/-- While an artifact is replaced, what stands under its name is whole if the earlier one could be
put aside. -/
structure Replacing (R : System) (s : Store) (home : Key) (name : String) (σ : Key)
    (d d' : Disk) : Prop where
  confined : d.Confined (fun k => σ <+: k ∨ s.Changes home name k) Nowhere d'
  whole : PutsAside R s name →
    d'.tree (s.artifactKey home name) = d.tree (s.artifactKey home name) ∨
    d'.tree (s.artifactKey home name) = (fun _ => none) ∨
    d'.tree (s.artifactKey home name) = d.tree σ

theorem Replacing.touches (h : Replacing R s home name σ d d')
    (hprepared : s.Prepared home name prepared σ) :
    s.Touches home name (fun p => p = .hidden ∨ p = .artifact) d d' := by
  refine h.confined.widen fun k hk => ?_
  rcases hk with ⟨rest, rfl⟩ | hhidden | hartifact
  · exact ⟨.hidden, .inl rfl, hprepared.owns rest⟩
  · exact ⟨.hidden, .inl rfl, hhidden⟩
  · exact ⟨.artifact, .inr rfl, hartifact⟩

section Replacement

variable (hR : ∀ r d reply d', R r d reply d' → Happens r d reply d')
variable (hsite : s.Site home name) (hsource : s.Source home name prepared σ)
include hR hsite hsource

theorem holds_replaceExisting (hd : d.Sound) (hhome : d.workingDirectory = home)
    (htrail : d.AreDirectories (s.artifactDirectory.trail home)) :
    Holds R (Replacing R s home name σ d)
      (s.replaceExisting name prepared (s.artifactPath name)).run d fun result d' =>
        Replacing R s home name σ d d' ∧
          (result = .ok ⟨⟩ → d'.tree (s.artifactKey home name) = d.tree σ) := by
  have hstart : Replacing R s home name σ d d := ⟨.refl hd, fun _ => .inl rfl⟩
  refine Work.holds_bind (Work.holds_ofAction (holds_bind.2
    (holds_request hstart fun process d' hreply => ?_)))
  obtain rfl := happens_processNumber (hR _ _ _ _ hreply)
  have hplain := isPlain_neighbour hsite.plain "replaced" (by decide) process
  have haside : (s.artifactDirectory.entry (neighbourName name "replaced" process)).key home
      = s.asideKey home name process := Path.key_entry hplain
  have htarget : (s.artifactPath name).key home = s.artifactKey home name :=
    key_artifactPath hsite.plain
  have hbeside (k : Key) (hk : s.asideKey home name process <+: k) : s.Changes home name k :=
    .inl ⟨_, names_neighbour name "replaced" process, hk⟩
  have hbelow (k : Key) (hk : s.artifactKey home name <+: k) : s.Changes home name k :=
    .inr ⟨name, rfl, hk⟩
  -- Clearing the place aside touches neither the artifact nor what was prepared.
  have hcleared {d₁} (h : d'.Confined (s.asideKey home name process <+: ·) Nowhere d₁) :
      Replacing R s home name σ d' d₁ :=
    ⟨h.widen fun k hk => .inr (hbeside k hk),
      fun _ => .inl (h.tree_eq (not_aside_above process) fun _ h => h)⟩
  refine Work.holds_bind (((holds_clear hplain hd (by rwa [hhome]) ?_).restrict hR).mono
    (fun _ h => hcleared (hhome ▸ h)) ?_)
  · rw [hhome]
    exact fun k hk hpre => hsite.outside_changes hk (hbeside k hpre)
  rw [hhome]
  rintro (failure | value) d₁ ⟨h₁, -⟩
  · exact ⟨hcleared h₁, fun hok => by cases hok⟩
  have hhome₁ : d₁.workingDirectory = home := h₁.home.trans hhome
  have hprepared₁ : d₁.tree σ = d'.tree σ :=
    h₁.tree_eq (hsource.not_neighbour (.inl rfl)) fun _ h => h
  have hbeside₁ : d'.Confined (s.Changes home name) Nowhere d₁ := h₁.widen hbeside
  refine Work.holds_bind (Work.holds_ofAction (holds_rename hR h₁.sound
    (by rw [hhome₁, htarget]) (by rw [hhome₁]; exact haside) (asideKey_ne_artifactKey process).symm
    (hcleared h₁) ?_ ?_))
  · intro d₂ hrenamed hmoved hvacant _
    have h₂ : d'.Confined (s.Changes home name) Nowhere d₂ :=
      hbeside₁.trans (hrenamed.widen (fun k hk => hk.elim (hbelow k) (hbeside k)))
    have hprepared₂ : d₂.tree σ = d'.tree σ := by
      rw [← hprepared₁]
      refine hrenamed.tree_eq (fun rest => ?_) fun _ h => h
      rintro (hpre | hpre)
      · exact hsource.not_below_target rest hpre
      · exact hsource.not_neighbour (.inl rfl) rest hpre
    have hearlier : d₂.tree (s.asideKey home name process) = d'.tree (s.artifactKey home name) := by
      rw [hmoved]
      exact h₁.tree_eq (not_aside_above process) fun _ h => h
    have hswapping {d₃} (h : s.Swapping home name σ (s.asideKey home name process) d₂ d₃) :
        Replacing R s home name σ d' d₃ := by
      refine ⟨(h₂.widen fun _ => .inr).trans h.confined, fun _ => ?_⟩
      rcases h.whole with h | h | h
      · exact .inr (.inl (h.trans hvacant))
      · exact .inr (.inr (h.trans hprepared₂))
      · exact .inl (h.trans hearlier)
    refine (holds_swapIn hR hsite hsource process h₂.sound (h₂.home.trans hhome)
      (h₂.areDirectories (fun k hk => hsite.outside_changes hk) htrail)).mono
      (fun _ h => hswapping h) ?_
    rintro result d₃ ⟨h₃, hdone⟩
    exact ⟨hswapping h₃, fun hok => (hdone hok).trans hprepared₂⟩
  · intro error hrefused
    have hnever : ¬ PutsAside R s name := fun h => by cases h _ _ _ _ hrefused
    have hanything {d₂} (h : d₁.Confined (fun k => σ <+: k ∨ s.Changes home name k) Nowhere d₂) :
        Replacing R s home name σ d' d₂ :=
      ⟨(hcleared h₁).confined.trans h, fun h => absurd h hnever⟩
    have hremoved {d₂} (h : d₁.Confined (s.artifactKey home name <+: ·) Nowhere d₂) :
        Replacing R s home name σ d' d₂ :=
      hanything (h.widen fun k hk => .inr (hbelow k hk))
    refine Work.holds_bind (Work.holds_within (Work.holds_ofFile (((Files.holds_removeTree_alone
      h₁.sound).restrict hR).mono (fun _ h => hremoved ?_) ?_)))
    · rwa [hhome₁, htarget] at h
    rw [hhome₁, htarget]
    rintro (failure | value) d₂ ⟨h₂, -⟩
    · exact ⟨hremoved h₂, fun hok => by cases hok⟩
    · have hall : d'.Confined (s.Changes home name) Nowhere d₂ :=
        hbeside₁.trans (h₂.widen hbelow)
      have hmoving {d₃} (h : s.Moving home name σ d₂ d₃) : Replacing R s home name σ d' d₃ :=
        ⟨(hall.widen fun _ => .inr).trans (h.confined.widen fun _ hk => hk.changes),
          fun h => absurd h hnever⟩
      refine (holds_moveIntoPlace hR hsite hsource h₂.sound (h₂.home.trans hhome₁)
        ?_).mono (fun _ h => hmoving h) ?_
      · exact hall.areDirectories (fun k hk => hsite.outside_changes hk) htrail
      · rintro result d₃ ⟨h₃, hdone⟩
        refine ⟨hmoving h₃, fun hok => ?_⟩
        rw [hdone hok, h₂.tree_eq hsource.not_below_target fun _ h => h, hprepared₁]

/-- With the leftovers swept away, an earlier artifact is replaced or the name is still vacant. -/
theorem holds_replaceSwept (hd : d.Sound) (hhome : d.workingDirectory = home)
    (htrail : d.AreDirectories (s.artifactDirectory.trail home)) :
    Holds R (Replacing R s home name σ d)
      (do
        if ← Work.ofAction (Files.pathExists (s.artifactPath name)) then
          s.replaceExisting name prepared (s.artifactPath name)
        else s.moveIntoPlace name prepared (s.artifactPath name)
        return s.artifactPath name : Work Path).run d fun result d' =>
        Replacing R s home name σ d d' ∧
          ∀ target, result = .ok target → target = s.artifactPath name ∧
            d'.tree (s.artifactKey home name) = d.tree σ := by
  have hmoving {d'} (h : s.Moving home name σ d d') : Replacing R s home name σ d d' :=
    ⟨h.confined.widen fun _ hk => hk.changes,
      fun _ => h.whole.elim .inl fun h => .inr (.inr h)⟩
  refine Work.holds_bind (Work.holds_ofAction ((Files.holds_pathExists ⟨.refl hd, fun _ => .inl rfl⟩
    ?_ fun _ => ?_).restrict hR))
  · refine Work.holds_bind ((holds_replaceExisting hR hsite hsource hd hhome htrail).mono
      (fun _ h => h) ?_)
    rintro (failure | value) d' ⟨h, hinstalled⟩
    · exact ⟨h, fun _ hok => by cases hok⟩
    · exact ⟨h, fun _ hok => by cases hok; exact ⟨rfl, hinstalled rfl⟩⟩
  · refine Work.holds_bind ((holds_moveIntoPlace hR hsite hsource hd hhome htrail).mono
      (fun _ h => hmoving h) ?_)
    rintro (failure | value) d' ⟨h, hinstalled⟩
    · exact ⟨hmoving h, fun _ hok => by cases hok⟩
    · exact ⟨hmoving h, fun _ hok => by cases hok; exact ⟨rfl, hinstalled rfl⟩⟩

end Replacement

/-! ## Sweeping before an installation -/

/-- The keys at and below the entries that an installation sweeps away. -/
def Leftover (s : Store) (home : Key) (name : String) (prepared : Path) (k : Key) : Prop :=
  ∃ entry, Path.IsPlain entry ∧
    isLeftover name prepared (s.artifactDirectory.entry entry) = true ∧
    s.artifactDirectory.key home ++ [entry] <+: k

/-- Only hidden entries are swept away. -/
theorem Leftover.owns {k : Key} (h : s.Leftover home name prepared k) :
    s.Owns home .hidden name k := by
  obtain ⟨entry, hentry, hstale, hpre⟩ := h
  rw [isLeftover, Bool.and_eq_true] at hstale
  refine ⟨entry, ?_, hpre⟩
  simpa [Path.nameBeginsWith, Path.nameChars_entry hentry, Part.Names] using hstale.1

/-- What is installed from a place that is not swept away is what stands there. -/
theorem holds_replaceArtifact_of_source (hR : ∀ r d reply d', R r d reply d' → Happens r d reply d')
    (hsite : s.Site home name) (hsource : s.Source home name prepared σ)
    (hspared : ∀ rest, ¬ s.Leftover home name prepared (σ ++ rest)) (hd : d.Sound)
    (hhome : d.workingDirectory = home)
    (htrail : d.AreDirectories (s.artifactDirectory.trail home)) :
    Holds R (Replacing R s home name σ d) (s.replaceArtifact name prepared).run d fun result d' =>
      Replacing R s home name σ d d' ∧ ∀ target, result = .ok target →
        target = s.artifactPath name ∧ d'.tree (s.artifactKey home name) = d.tree σ := by
  have hartifact {d₁} (h : d.Confined (s.Leftover home name prepared) Nowhere d₁) :
      d₁.tree (s.artifactKey home name) = d.tree (s.artifactKey home name) := by
    refine h.tree_eq (fun rest hleft => ?_) fun _ h => h
    obtain ⟨entry, hentry, hpre⟩ := hleft.owns
    exact hidden_ne hentry (sibling_iff.1 hpre)
  have hswept {d₁} (h : d.Confined (s.Leftover home name prepared) Nowhere d₁) :
      Replacing R s home name σ d d₁ :=
    ⟨h.widen fun _ hk => .inr (.inl hk.owns), fun _ => .inl (hartifact h)⟩
  refine Work.holds_bind (Work.holds_within (Work.holds_ofFile
    (((Files.holds_ensureDirectory_open hd (by rwa [hhome])).restrict hR).mono
      (fun _ h => hswept (h.widen fun _ hk => hk.elim)) ?_)))
  rintro (error | value) d₁ h₁
  · exact ⟨hswept (h₁.widen fun _ hk => hk.elim), fun _ hok => by cases hok⟩
  refine Work.holds_bind (Work.holds_ofAction (((holds_sweep
    (h₁.widen fun _ hk => hk.elim) ?_).restrict hR).mono (fun _ h => hswept h) ?_))
  · intro entry hentry hstale rest
    rw [hhome]
    exact ⟨entry, hentry, hstale, List.prefix_append ..⟩
  intro _ d₂ h₂
  have hsource₂ : d₂.tree σ = d.tree σ := h₂.tree_eq hspared fun _ h => h
  have hreplacing {d₃} (h : Replacing R s home name σ d₂ d₃) : Replacing R s home name σ d d₃ := by
    refine ⟨(hswept h₂).confined.trans h.confined, fun haside => ?_⟩
    rw [← hartifact h₂, ← hsource₂]
    exact h.whole haside
  refine (holds_replaceSwept hR hsite hsource h₂.sound (h₂.home.trans hhome) ?_).mono
    (fun _ h => hreplacing h) ?_
  · exact h₂.areDirectories (fun k hk hleft => (hsite.outside k hk).1 hleft.owns) htrail
  · rintro result d₃ ⟨h₃, hinstalled⟩
    refine ⟨hreplacing h₃, fun target hok => ?_⟩
    obtain ⟨htarget, htree⟩ := hinstalled target hok
    exact ⟨htarget, htree.trans hsource₂⟩

/-- The path of what was prepared in a scratch directory. -/
def preparedPath (s : Store) (name middle : String) (names : List String) : Path :=
  (s.artifactDirectory.entry (scratchBeginning name ++ middle)).descend names

/-- The key of what was prepared in a scratch directory. -/
def preparedKey (s : Store) (home : Key) (name middle : String) (names : List String) : Key :=
  s.artifactDirectory.key home ++ [scratchBeginning name ++ middle] ++ names

section Prepared

variable {middle : String} {names : List String}

/-- What is given by a path that starts with that of the scratch directory is not swept away. -/
theorem holds_replaceArtifact (hR : ∀ r d reply d', R r d reply d' → Happens r d reply d')
    (hsite : s.Site home name) (hd : d.Sound) (hhome : d.workingDirectory = home)
    (htrail : d.AreDirectories (s.artifactDirectory.trail home))
    (hprepared : s.Prepared home name prepared (s.preparedKey home name middle names))
    (hstarts :
      prepared.startsWith (s.artifactDirectory.entry (scratchBeginning name ++ middle)) = true) :
    Holds R (Replacing R s home name (s.preparedKey home name middle names) d)
      (s.replaceArtifact name prepared).run d fun result d' =>
        Replacing R s home name (s.preparedKey home name middle names) d d' ∧
          ∀ target, result = .ok target → target = s.artifactPath name ∧
            d'.tree (s.artifactKey home name) = d.tree (s.preparedKey home name middle names) := by
  refine holds_replaceArtifact_of_source hR hsite hprepared.source (fun rest hleft => ?_) hd hhome
    htrail
  obtain ⟨entry, -, hstale, hpre⟩ := hleft
  rw [preparedKey, List.append_assoc] at hpre
  rw [isLeftover, sibling_iff.1 hpre, hstarts, Bool.not_true, Bool.and_false] at hstale
  cases hstale

variable (hscratch : Path.IsPlain (scratchBeginning name ++ middle))
variable (hnames : ∀ n ∈ names, Path.IsPlain n)
include hscratch hnames

theorem prepared_descend : s.Prepared home name (s.preparedPath name middle names)
    (s.preparedKey home name middle names) :=
  ⟨by rw [preparedPath, Path.key_descend hnames, Path.key_entry hscratch, preparedKey],
    middle, names, rfl⟩

/-- A path through the directory of the artifacts tells the scratch directory from all other
entries. -/
theorem isLeftover_iff {entry : String} (hentry : Path.IsPlain entry) :
    isLeftover name (s.preparedPath name middle names) (s.artifactDirectory.entry entry) = true ↔
      Part.hidden.Names name entry ∧ entry ≠ scratchBeginning name ++ middle := by
  rw [isLeftover, Bool.and_eq_true, Bool.not_eq_true', preparedPath, ← Bool.not_eq_true,
    Path.descend_startsWith_entry hscratch hentry hnames]
  simp [Path.nameBeginsWith, Path.nameChars_entry hentry, Part.Names, ne_comm]

end Prepared

end Store
end Exemplar
