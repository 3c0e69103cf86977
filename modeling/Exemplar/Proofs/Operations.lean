/-
File operations of several requests on a disk on which every request can fail.

Each operation has one statement: whatever fails and wherever it is cut off, it
changes nothing outside the keys that are its own, and where it answers that it
succeeded, it did what it is for.
-/
import Exemplar.Files.Operations
import Exemplar.Proofs.Faults

namespace Exemplar

namespace Disk

variable {d : Disk} {path : Path}

/-! ## Listings -/

theorem locate_ok {top : Path} (h : d.locate path = .ok top) :
    d.Leads path ∧ top = pathOf (path.key d.workingDirectory) := by
  simp only [locate, bind, Except.bind] at h
  split at h
  · cases h
  · rename_i found hfound
    split at h
    · rename_i key
      cases h
      exact ⟨leads_of_find hfound, by rw [(find_ok hfound).1]⟩
    · cases h

theorem findDirectory_ok {below : List (List String × Entry)}
    (h : d.findDirectory path = .ok below) :
    d.Leads path ∧ below = d.below (path.key d.workingDirectory) := by
  simp only [findDirectory, bind, Except.bind] at h
  split at h
  · cases h
  · rename_i found hfound
    split at h
    · rename_i key
      cases h
      exact ⟨leads_of_find hfound, by rw [(find_ok hfound).1]⟩
    · cases h

theorem list_ok {names : List String} (hd : d.Sound)
    (h : (d.answer (.list path)).1 = .ok names) :
    d.Leads path ∧
      ∀ name, name ∈ names ↔ d.get? (path.key d.workingDirectory ++ [name]) ≠ none := by
  simp only [answer, Except.map] at h
  split at h
  · cases h
  · rename_i below hbelow
    obtain ⟨hleads, rfl⟩ := findDirectory_ok hbelow
    cases h
    refine ⟨hleads, fun name => ?_⟩
    rw [List.mem_filterMap, Option.ne_none_iff_exists']
    constructor
    · rintro ⟨⟨rest, entry⟩, hmem, heq⟩
      split at heq
      · rename_i only _ hrest
        cases heq
        cases hrest
        exact ⟨entry, (hd.mem_below_iff.1 hmem).2⟩
      · cases heq
    · rintro ⟨entry, hentry⟩
      exact ⟨([name], entry), hd.mem_below_iff.2 ⟨by simp, hentry⟩, rfl⟩

theorem insertByDepth_perm (e : List String × Kind) (below : List (List String × Kind)) :
    (insertByDepth e below).Perm (e :: below) := by
  induction below with
  | nil => exact .refl _
  | cons f rest ih =>
    rw [insertByDepth]
    split
    · exact .refl _
    · exact (ih.cons f).trans (.swap e f rest)

theorem byDepth_perm (below : List (List String × Kind)) : (byDepth below).Perm below := by
  induction below with
  | nil => exact .refl _
  | cons e rest ih => exact (insertByDepth_perm e _).trans (ih.cons e)

theorem insertByDepth_sorted (e : List String × Kind) {below : List (List String × Kind)}
    (h : below.Pairwise fun a b => a.1.length ≤ b.1.length) :
    (insertByDepth e below).Pairwise fun a b => a.1.length ≤ b.1.length := by
  induction below with
  | nil => simp [insertByDepth]
  | cons f rest ih =>
    obtain ⟨hf, hrest⟩ := List.pairwise_cons.1 h
    rw [insertByDepth]
    split
    · rename_i hle
      refine List.pairwise_cons.2 ⟨fun g hg => ?_, h⟩
      rcases List.mem_cons.1 hg with rfl | hg
      · exact hle
      · exact Nat.le_trans hle (hf g hg)
    · rename_i hlt
      refine List.pairwise_cons.2 ⟨fun g hg => ?_, ih hrest⟩
      rcases List.mem_cons.1 ((insertByDepth_perm e rest).mem_iff.1 hg) with rfl | hg
      · omega
      · exact hf g hg

theorem byDepth_sorted (below : List (List String × Kind)) :
    (byDepth below).Pairwise fun a b => a.1.length ≤ b.1.length := by
  induction below with
  | nil => exact .nil
  | cons e rest ih => exact insertByDepth_sorted e ih

/-- A walk lists what is below, each entry once and each directory before what is in it. -/
structure Lists (d : Disk) (key : Key) (below : List (List String × Kind)) : Prop where
  mem_iff : ∀ names kind, (names, kind) ∈ below ↔
    names ≠ [] ∧ ∃ entry, d.get? (key ++ names) = some entry ∧ entry.kind = kind
  sorted : below.Pairwise fun a b => a.1.length ≤ b.1.length
  distinct : (below.map (·.1)).Nodup

theorem walk_ok {below : List (List String × Kind)} (hd : d.Sound)
    (h : (d.answer (.walk path)).1 = .ok below) :
    d.Leads path ∧ d.Lists (path.key d.workingDirectory) below := by
  simp only [answer, Except.map] at h
  split at h
  · cases h
  · rename_i found hfound
    obtain ⟨hleads, rfl⟩ := findDirectory_ok hfound
    cases h
    refine ⟨hleads, fun names kind => ?_, ?_, ?_⟩
    · rw [(byDepth_perm _).mem_iff, List.mem_map]
      constructor
      · rintro ⟨⟨rest, entry⟩, hmem, heq⟩
        cases heq
        obtain ⟨hne, hentry⟩ := hd.mem_below_iff.1 hmem
        exact ⟨hne, entry, hentry, rfl⟩
      · rintro ⟨hne, entry, hentry, rfl⟩
        exact ⟨(names, entry), hd.mem_below_iff.2 ⟨hne, hentry⟩, rfl⟩
    · exact byDepth_sorted _
    · refine (((byDepth_perm _).map Prod.fst).nodup_iff).2 ?_
      rw [List.map_map]
      exact hd.nodup_below _

/-- The entries of a directory are told, each with what it is. -/
def Shows (d : Disk) (key : Key) (found : List (String × Kind)) : Prop :=
  ∀ name kind, (name, kind) ∈ found ↔
    ∃ entry, d.get? (key ++ [name]) = some entry ∧ entry.kind = kind

end Disk

namespace Files

open Exemplar.Action Disk

variable {change grow : Key → Prop} {d₀ d : Disk} {path : Path}

/-! ## Questions -/

theorem holds_kindOf {I : Disk → Prop} {Q : Option Kind → Disk → Prop} (hI : I d)
    (h : Q ((d.find path).toOption.map fun found => found.2.kind) d) :
    Holds Happens I (kindOf path) d Q := by
  refine holds_request hI fun reply d' hreply => ?_
  obtain ⟨rfl, rfl⟩ := happens_kindOf hreply
  exact h

theorem holds_isDirectory {I : Disk → Prop} {Q : Bool → Disk → Prop} (hI : I d)
    (hdirectory : d.Leads path → Q true d) (hother : Q false d) :
    Holds Happens I (isDirectory path) d Q := by
  refine holds_bind.2 (holds_kindOf hI ?_)
  show Q (decide _) d
  by_cases h : (d.find path).toOption.map (fun found => found.2.kind) = some .directory
  · rw [decide_eq_true h]
    cases hfind : d.find path with
    | error error => rw [hfind] at h; cases h
    | ok found =>
      obtain ⟨key, entry⟩ := found
      rw [hfind] at h
      cases entry with
      | file bytes => simp [Except.toOption, Entry.kind] at h
      | directory => exact hdirectory (leads_of_find hfind)
  · rw [decide_eq_false h]
    exact hother

theorem holds_pathExists {I : Disk → Prop} {Q : Bool → Disk → Prop} (hI : I d)
    (hsome : Q true d) (hnone : (∀ found, d.find path ≠ .ok found) → Q false d) :
    Holds Happens I (pathExists path) d Q := by
  refine holds_bind.2 (holds_kindOf hI ?_)
  show Q (Option.isSome _) d
  cases hfind : d.find path with
  | error error => exact hnone fun found h => by rw [hfind] at h; cases h
  | ok found => exact hsome

theorem holds_entries {I : Disk → Prop}
    {Q : Except FileError (List (String × Kind)) → Disk → Prop} (hd : d.Sound) (hI : I d)
    (hok : ∀ found, d.Leads path → d.Shows (path.key d.workingDirectory) found → Q (.ok found) d)
    (herror : ∀ error, Q (.error error) d) : Holds Happens I (entries path) d Q := by
  refine holds_bind.2 (holds_request hI fun reply d' hreply => ?_)
  obtain ⟨rfl, hwalk⟩ := happens_walk hreply
  cases reply with
  | error error => exact herror error
  | ok below =>
    obtain ⟨hleads, hlists⟩ := walk_ok hd (hwalk below rfl)
    refine hok _ hleads fun name kind => ?_
    rw [List.mem_filterMap]
    constructor
    · rintro ⟨⟨names, kind'⟩, hmem, heq⟩
      split at heq
      · rename_i only _ hnames
        cases heq
        cases hnames
        exact ((hlists.mem_iff _ _).1 hmem).2
      · cases heq
    · rintro ⟨entry, hentry, rfl⟩
      exact ⟨([name], entry.kind), (hlists.mem_iff _ _).2 ⟨by simp, entry, hentry, rfl⟩, rfl⟩

/-! ## Making directories -/

theorem holds_orIfDirectory {I : Disk → Prop} {result : Except FileError Unit}
    (hI : I d) (hok : result = .ok () → d.Leads path) :
    Holds Happens I (makeDirectories.orIfDirectory path result) d fun result d' =>
      d' = d ∧ (result = .ok () → d.Leads path) := by
  cases result with
  | ok value => exact ⟨rfl, fun _ => hok rfl⟩
  | error error =>
    refine holds_bind.2 (holds_isDirectory hI (fun hleads => ?_) ?_)
    · exact ⟨rfl, fun _ => hleads⟩
    · exact ⟨rfl, fun h => by cases h⟩

/-- A directory that is made is one that its path leads to. -/
theorem makeDirectory_leads (hd : d.Sound) {d' : Disk} (h : d.makeDirectory path = .ok d') :
    d.Confined Nowhere (· = path.key d.workingDirectory) d' ∧ d'.Leads path := by
  obtain ⟨parent, name, hnames, htrail, hnone, rfl⟩ := makeDirectory_ok h
  have hconfined := confined_grow hd hnames hnone
  rw [hnames.key_eq]
  refine ⟨hconfined, hnames.text_ne, hnames.fits, fun k hk => ?_⟩
  rw [hconfined.home] at hk
  rcases mem_parentTrail_of_mem_trail hk with hk | rfl
  · exact hconfined.areDirectories (fun _ _ h => h) htrail k hk
  · rw [hnames.key_eq, get?_put (by simp), if_pos rfl]

theorem holds_makeDirectories {paths : List Path} (h : d₀.Confined change grow d)
    (hgrow : ∀ p ∈ paths, p.text ≠ "" →
      grow (p.key d₀.workingDirectory) ∨ change (p.key d₀.workingDirectory)) :
    Holds Happens (d₀.Confined change grow) (makeDirectories paths) d fun result d' =>
      d₀.Confined change grow d' ∧
        ∀ p, paths.head? = some p → p.text ≠ "" → result = .ok () → d'.Leads p := by
  induction paths generalizing d with
  | nil => exact ⟨h, by simp⟩
  | cons p above ih =>
    obtain ⟨hp, habove⟩ := List.forall_mem_cons.1 hgrow
    rw [makeDirectories]
    by_cases hempty : p.text = ""
    · rw [if_pos hempty]
      refine ⟨h, fun q hq hne => absurd hempty ?_⟩
      cases hq
      exact hne
    · rw [if_neg hempty]
      have hmade {d d'} (h : d₀.Confined change grow d) (hd' : d.makeDirectory p = .ok d') :
          d₀.Confined change grow d' ∧ d'.Leads p := by
        obtain ⟨hconfined, hleads⟩ := makeDirectory_leads h.sound hd'
        rw [h.home] at hconfined
        exact ⟨h.trans (hconfined.mono (fun _ hk => hk.elim) fun k hk => hk ▸ hp hempty), hleads⟩
      have hsettled {d d' reply} (h : d₀.Confined change grow d)
          (hs : d.Settles (d.makeDirectory p) reply d') :
          d₀.Confined change grow d' ∧ (reply = .ok () → d'.Leads p) := by
        rcases hs with ⟨rfl, hok⟩ | ⟨rfl, error, rfl, -⟩
        · exact ⟨(hmade h hok).1, fun _ => (hmade h hok).2⟩
        · exact ⟨h, fun hok => by cases hok⟩
      refine holds_bind.2 (holds_request h fun reply d' hreply => ?_)
      obtain ⟨h', hleads⟩ := hsettled h (happens_makeDirectory hreply)
      have hfinish {result d'} (h' : d₀.Confined change grow d')
          (hleads : result = .ok () → d'.Leads p) :
          Holds Happens (d₀.Confined change grow) (makeDirectories.orIfDirectory p result) d'
            fun result d' => d₀.Confined change grow d' ∧
              ∀ q, (p :: above).head? = some q → q.text ≠ "" → result = .ok () → d'.Leads q := by
        refine (holds_orIfDirectory h' hleads).mono (fun _ h => h) ?_
        rintro result d'' ⟨rfl, hok⟩
        refine ⟨h', fun q hq _ hresult => ?_⟩
        cases hq
        exact hok hresult
      split
      · exact ⟨h', fun q hq _ _ => by cases hq; exact hleads rfl⟩
      · refine holds_bind.2 ((ih h' habove).mono (fun _ h => h) ?_)
        rintro (error | value) d'' ⟨h'', -⟩
        · exact ⟨h'', fun q _ _ hok => by cases hok⟩
        · refine holds_bind.2 (holds_request h'' fun reply d₃ hreply => ?_)
          obtain ⟨h₃, hleads⟩ := hsettled h'' (happens_makeDirectory hreply)
          exact hfinish h₃ hleads
      · exact hfinish h' fun hok => by cases hok

/-- Only directories on the way of the path are made, and the path leads to one at the end. -/
theorem holds_ensureDirectory (h : d₀.Confined change grow d)
    (hgrow : ∀ k ∈ path.trail d₀.workingDirectory, grow k ∨ change k) :
    Holds Happens (d₀.Confined change grow) (ensureDirectory path) d fun result d' =>
      d₀.Confined change grow d' ∧ (path.text ≠ "" → result = .ok () → d'.Leads path) := by
  refine (holds_makeDirectories h fun p hp hne => hgrow _ ?_).mono (fun _ h => h) ?_
  · exact Path.trail_upwards hp hne (Path.key_mem_trail _ _)
  · rintro result d' ⟨h', hleads⟩
    exact ⟨h', hleads path rfl⟩

/-- Where the way is there already, nothing is made. -/
theorem holds_ensureDirectory_open (hd : d.Sound)
    (htrail : d.AreDirectories (path.trail d.workingDirectory)) :
    Holds Happens (d.Confined Nowhere Nowhere) (ensureDirectory path) d fun _ d' =>
      d.Confined Nowhere Nowhere d' := by
  have hnothing {d'} (h : d.Confined Nowhere (· ∈ path.trail d.workingDirectory) d') :
      d.Confined Nowhere Nowhere d' := by
    refine ⟨h.sound, h.home, fun k hk => .inl ?_⟩
    rcases h.same k hk with heq | ⟨hmem, hnone, -⟩
    · exact heq
    · rw [htrail k hmem] at hnone
      cases hnone
  exact (holds_ensureDirectory (.refl hd) fun k hk => .inl hk).mono (fun _ h => hnothing h)
    fun _ _ h => hnothing h.1

/-! ## Removing -/

theorem holds_removeEntries {top : Path} {below : List (List String × Kind)}
    (h : d₀.Confined change grow d)
    (hplain : ∀ e ∈ below, ∀ name ∈ e.1, Path.IsPlain name)
    (hchange : ∀ names, change (top.key d₀.workingDirectory ++ names)) :
    Holds Happens (d₀.Confined change grow) (removeEntries top below) d fun _ d' =>
      d₀.Confined change grow d' := by
  induction below generalizing d with
  | nil => exact h
  | cons e rest ih =>
    obtain ⟨names, kind⟩ := e
    obtain ⟨hnames, hrest⟩ := List.forall_mem_cons.1 hplain
    have hkey : (top.descend names).key d.workingDirectory
        = top.key d₀.workingDirectory ++ names := by
      rw [h.home, Path.key_descend hnames]
    have hone {d'} (hd' : d.Confined (· = (top.descend names).key d.workingDirectory) Nowhere d') :
        d₀.Confined change grow d' :=
      h.trans (hd'.mono (fun k hk => by rw [hk, hkey]; exact hchange names) fun _ hk => hk.elim)
    refine holds_bind.2 (Holds.mono (I := d₀.Confined change grow)
      (Q := fun _ d' => d₀.Confined change grow d') ?_ (fun _ h => h) ?_)
    · cases kind with
      | directory =>
        refine holds_request h fun reply d' hreply => ?_
        exact (happens_removeDirectory hreply).confined h.sound
          (fun d' hd' => confined_removeDirectory h.sound hd') |> hone
      | file =>
        refine holds_request h fun reply d' hreply => ?_
        exact (happens_removeFile hreply).confined h.sound
          (fun d' hd' => confined_removeFile h.sound hd') |> hone
    · rintro (error | value) d' h'
      · exact h'
      · exact ih h' hrest

/-- Emptying a directory changes nothing but what is below it. -/
theorem holds_empty {key : Key} (hd : d.Sound) (hkey : ∀ name ∈ key, Path.IsPlain name) :
    Holds Happens (d.Confined (key <+: ·) Nowhere) (empty (pathOf key)) d fun _ d' =>
      d.Confined (key <+: ·) Nowhere d' := by
  refine holds_bind.2 (holds_request (.refl hd) fun reply d' hreply => ?_)
  obtain ⟨rfl, hwalk⟩ := happens_walk hreply
  cases reply with
  | error error => exact .refl hd
  | ok below =>
    have hlists := (walk_ok hd (hwalk below rfl)).2
    refine holds_removeEntries (.refl hd) (fun e he name hname => ?_) fun names => ?_
    · obtain ⟨-, entry, hentry, -⟩ := (hlists.mem_iff e.1 e.2).1 (List.mem_reverse.1 he)
      exact hd.plain_of_get? (by rw [hentry]; simp) name (List.mem_append_right _ hname)
    · rw [key_pathOf hkey]
      exact List.prefix_append _ _

/-- Removing changes nothing but what is at and below the key of the path.  Where it succeeds there
is nothing left, unless the way to the path was among what was removed. -/
theorem holds_removeTree (h : d₀.Confined change grow d)
    (hchange : ∀ names, change (path.key d₀.workingDirectory ++ names)) :
    Holds Happens (d₀.Confined change grow) (removeTree path) d fun result d' =>
      d₀.Confined change grow d' ∧
        ((∀ k ∈ d.parentTrail path, ¬ path.key d₀.workingDirectory <+: k) →
          result = .ok () → d'.get? (path.key d₀.workingDirectory) = none) := by
  refine holds_bind.2 (holds_request h fun reply d₁ hreply => ?_)
  obtain ⟨rfl, hlocate⟩ := happens_locate hreply
  cases reply with
  | error error => exact ⟨h, fun _ hok => by cases hok⟩
  | ok top =>
    obtain ⟨hleads, rfl⟩ := locate_ok (hlocate top rfl)
    have hkey := h.sound.plain_of_get? (by rw [hleads.directory]; simp)
    have hempty := holds_empty h.sound hkey
    rw [h.home] at hempty ⊢
    -- What is removed lies below the key, so the way to the path stays open.
    have hremoved {d'} (hbelow : d₁.Confined (path.key d₀.workingDirectory <+: ·) Nowhere d') :
        d₀.Confined change grow d' :=
      h.trans (hbelow.widen fun k ⟨rest, hk⟩ => hk ▸ hchange rest)
    refine holds_bind.2 (hempty.mono (fun _ h => hremoved h) ?_)
    rintro (error | value) d' hbelow
    · exact ⟨hremoved hbelow, fun _ hok => by cases hok⟩
    · have h' := hremoved hbelow
      refine holds_bind.2 (holds_request h' fun reply d₂ hreply => ?_)
      have hsettles := happens_removeDirectory hreply
      have h₂ : d₀.Confined change grow d₂ := by
        refine h'.trans ((hsettles.confined h'.sound
          fun d' hd' => confined_removeDirectory h'.sound hd').mono (fun k hk => ?_)
          fun _ hk => hk.elim)
        rw [hk, h'.home]
        simpa using hchange []
      have hgone (hway : ∀ k ∈ d₁.parentTrail path, ¬ path.key d₀.workingDirectory <+: k) :
          (reply = .ok () ∨ reply = .error .notFound) →
            d₂.get? (path.key d₀.workingDirectory) = none := by
        rintro (rfl | rfl)
        · obtain ⟨parent, name, hnames, -, -, rfl⟩ := removeDirectory_ok (hsettles.ok rfl)
          rw [← h'.home, hnames.key_eq, get?_erase (by simp), if_pos rfl]
        · obtain ⟨rfl, hnotFound⟩ := hsettles.notFound rfl
          rw [← h'.home]
          refine removeDirectory_notFound hleads.text_ne ?_ hnotFound
          have htrail : d₂.parentTrail path = d₁.parentTrail path := by
            rw [Disk.parentTrail, Disk.parentTrail, h'.home, h.home]
          rw [htrail]
          exact hbelow.areDirectories hway hleads.parentTrail
      split
      · exact ⟨h₂, fun hway _ => hgone hway (.inr rfl)⟩
      · refine ⟨h₂, fun hway hok => hgone hway (.inl hok)⟩

/-- Only directories that are missing on the way of a path are made. -/
theorem holds_ensureDirectory_alone (hd : d.Sound) :
    Holds Happens (d.Confined Nowhere (· ∈ path.trail d.workingDirectory)) (ensureDirectory path) d
      fun result d' => d.Confined Nowhere (· ∈ path.trail d.workingDirectory) d' ∧
        (path.text ≠ "" → result = .ok () → d'.Leads path) :=
  holds_ensureDirectory (.refl hd) fun _ hk => .inl hk

theorem holds_removeTree_alone (hd : d.Sound) :
    Holds Happens (d.Confined (path.key d.workingDirectory <+: ·) Nowhere) (removeTree path) d
      fun result d' => d.Confined (path.key d.workingDirectory <+: ·) Nowhere d' ∧
        ((∀ k ∈ d.parentTrail path, ¬ path.key d.workingDirectory <+: k) →
          result = .ok () → d'.get? (path.key d.workingDirectory) = none) :=
  holds_removeTree (.refl hd) fun _ => List.prefix_append ..

end Files
end Exemplar
