/-
Copying a directory on a disk on which every request can fail.

While a copy is made, whatever stands below the target is what stands at the same
place below the source, so a copy that was cut off is incomplete and nothing
worse.  A copy that succeeds is complete: of each directory, every entry that was
told of was made, and all were told of.
-/
import Exemplar.Proofs.Sweeping

namespace Exemplar

namespace Work

open Exemplar.Action

variable {R : System} {I : Disk → Prop} {d : Disk}

/-- A loop that stops at the first failure: `P` speaks of what is still to be done. -/
theorem holds_forM {α : Type} {xs : List α} {pass : α → Work PUnit} {P : List α → Disk → Prop}
    {F : Disk → Prop} (h : P xs d) (hF : ∀ d, P [] d → F d)
    (hpass : ∀ x rest d, P (x :: rest) d →
      Holds R I (pass x).run d fun result d' => F d' ∧ (result = .ok ⟨⟩ → P rest d')) :
    Holds R I (xs.forM pass).run d fun result d' => F d' ∧ (result = .ok ⟨⟩ → P [] d') := by
  induction xs generalizing d with
  | nil => exact ⟨hF d h, fun _ => h⟩
  | cons x rest ih =>
    refine holds_bind ((hpass x rest d h).mono (fun _ h => h) ?_)
    rintro (failure | value) d' ⟨hF', hP⟩
    · exact ⟨hF', fun hok => by cases hok⟩
    · exact ih (hP rfl)

end Work

namespace Disk

/-- Two keys of which neither leads below the other lead to different places throughout. -/
theorem not_prefix_append {a b : Key} (hab : ¬ a <+: b) (hba : ¬ b <+: a) (rest : List String) :
    ¬ a <+: b ++ rest := by
  intro h
  rcases List.prefix_or_prefix_of_prefix h (List.prefix_append b rest) with h | h
  · exact hab h
  · exact hba h

theorem readFile_ok {d : Disk} {path : Path} {bytes : ByteArray}
    (h : d.readFile path = .ok bytes) :
    d.get? (path.key d.workingDirectory) = some (.file bytes) := by
  simp only [readFile] at h
  split at h
  · rename_i key found hfind
    cases h
    obtain ⟨rfl, hfile, -⟩ := find_ok hfind
    exact hfile
  · cases h
  · cases h

end Disk

namespace Store

open Exemplar.Action Disk

variable {change grow : Key → Prop} {d₀ d₁ d : Disk} {source directory : Path} {name : String}
variable {σ τ : Key}

/-- The state of a copy from the key `σ` to the key `τ` that has begun on the disk `d₁`. -/
structure Copied (d₁ : Disk) (σ τ : Key) (d : Disk) : Prop where
  confined : d₁.Confined (τ <+: ·) Nowhere d
  top : d.get? τ = some .directory
  agrees : ∀ rest entry, d.get? (τ ++ rest) = some entry → d₁.get? (σ ++ rest) = some entry

/-- A copy has gone on. -/
structure Extends (d₁ : Disk) (σ τ : Key) (d d' : Disk) : Prop where
  copied : Copied d₁ σ τ d'
  kept : ∀ rest, d.get? (τ ++ rest) ≠ none → d'.get? (τ ++ rest) ≠ none

theorem Copied.extends_self (h : Copied d₁ σ τ d) : Extends d₁ σ τ d d := ⟨h, fun _ h => h⟩

theorem Extends.trans {d' d'' : Disk} (h : Extends d₁ σ τ d d') (h' : Extends d₁ σ τ d' d'') :
    Extends d₁ σ τ d d'' :=
  ⟨h'.copied, fun rest hsome => h'.kept rest (h.kept rest hsome)⟩

/-- What stands at and below a place of the source stands in the copy. -/
def Covered (d₁ : Disk) (σ τ : Key) (names : List String) (d : Disk) : Prop :=
  ∀ rest, d₁.get? (σ ++ (names ++ rest)) ≠ none → d.get? (τ ++ (names ++ rest)) ≠ none

theorem Extends.covered {d' : Disk} {names : List String} (h : Extends d₁ σ τ d d')
    (hcovered : Covered d₁ σ τ names d) : Covered d₁ σ τ names d' :=
  fun rest hsome => h.kept _ (hcovered rest hsome)

/-- The paths of a copy within the directory in which its target stands. -/
structure CopyPaths (d₁ : Disk) (source directory : Path) (name : String) (σ τ : Key) : Prop where
  plain : Path.IsPlain name
  source_eq : source.key d₁.workingDirectory = σ
  target_eq : directory.key d₁.workingDirectory ++ [name] = τ
  trail : d₁.AreDirectories (directory.trail d₁.workingDirectory)
  outside : ∀ k ∈ directory.trail d₁.workingDirectory, ¬ τ <+: k
  not_above : ¬ τ <+: σ
  not_below : ¬ σ <+: τ

/-- Making a directory in the copy, with those above it that are missing, keeps to the source. -/
theorem Copied.makeDirectories (hpaths : CopyPaths d₁ source directory name σ τ) (h₁ : d₁.Sound)
    (h : Copied d₁ σ τ d) {names : List String} (hplain : ∀ n ∈ names, Path.IsPlain n)
    (hnames : d₁.get? (σ ++ names) = some .directory) {d' : Disk}
    (hgrow : d.Confined Nowhere
      (· ∈ ((directory.entry name).descend names).trail d.workingDirectory) d') :
    Extends d₁ σ τ d d' := by
  have hkept (k : Key) : d'.get? k = d.get? k ∨
      ∃ front, front <+: names ∧ k = τ ++ front ∧ d'.get? k = some .directory := by
    rcases hgrow.same k (fun h => h) with heq | ⟨hk, hnone, hdirectory⟩
    · exact .inl heq
    · rcases Path.mem_trail_descend hplain hk with hk | ⟨front, hfront, rfl⟩
      · rw [Path.trail_entry hpaths.plain, h.confined.home] at hk
        rcases List.mem_append.1 hk with hk | hk
        · rw [h.confined.eq_of_some (hpaths.outside k hk) (hpaths.trail k hk)] at hnone
          cases hnone
        · rw [List.mem_singleton.1 hk, Path.key_entry hpaths.plain, hpaths.target_eq, h.top]
            at hnone
          cases hnone
      · refine .inr ⟨front, hfront, ?_, hdirectory⟩
        rw [Path.key_entry hpaths.plain, h.confined.home, hpaths.target_eq]
  refine ⟨⟨h.confined.trans ⟨hgrow.sound, hgrow.home, fun k hk => ?_⟩, ?_, ?_⟩, ?_⟩
  · rcases hkept k with heq | ⟨front, -, rfl, -⟩
    · exact .inl heq
    · exact absurd (List.prefix_append ..) hk
  · exact hgrow.eq_of_some (fun h => h) h.top
  · intro rest entry hentry
    rcases hkept (τ ++ rest) with heq | ⟨front, ⟨after, hafter⟩, hrest, hdirectory⟩
    · exact h.agrees rest entry (heq ▸ hentry)
    · rw [List.append_cancel_left hrest]
      rw [hdirectory] at hentry
      cases hentry
      by_cases hempty : after = []
      · rw [hempty, List.append_nil] at hafter
        rw [hafter, hnames]
      · refine h₁.directory_above hempty ?_
        rw [List.append_assoc, hafter, hnames]
        simp
  · intro rest hsome
    rcases hkept (τ ++ rest) with heq | ⟨front, -, -, hdirectory⟩
    · rwa [heq]
    · rw [hdirectory]
      simp

theorem holds_copyEntry (hpaths : CopyPaths d₁ source directory name σ τ) (h₁ : d₁.Sound)
    (h : Copied d₁ σ τ d) {names : List String} (hplain : ∀ n ∈ names, Path.IsPlain n)
    {entry : Entry} (hentry : d₁.get? (σ ++ names) = some entry) :
    Holds Happens (d₁.Confined (τ <+: ·) Nowhere)
      (copyEntry (source.descend names) ((directory.entry name).descend names) entry.kind).run d
      fun result d' => d₁.Confined (τ <+: ·) Nowhere d' ∧
        (result = .ok ⟨⟩ → Extends d₁ σ τ d d' ∧ d'.get? (τ ++ names) ≠ none) := by
  have hhome := h.confined.home
  have htarget : ((directory.entry name).descend names).key d.workingDirectory = τ ++ names := by
    rw [Path.key_descend hplain, Path.key_entry hpaths.plain, hhome, hpaths.target_eq]
  cases entry with
  | directory =>
    refine Work.holds_within (Work.holds_ofFile ((Files.holds_ensureDirectory_alone
      h.confined.sound).mono ?_ ?_))
    · exact fun d' h' => (h.makeDirectories hpaths h₁ hplain hentry h').copied.confined
    · rintro result d' ⟨h', hleads⟩
      have hextends := h.makeDirectories hpaths h₁ hplain hentry h'
      rcases result with error | value
      · exact ⟨hextends.copied.confined, fun hok => by cases hok⟩
      · refine ⟨hextends.copied.confined, fun _ => ⟨hextends, ?_⟩⟩
        have hne : ((directory.entry name).descend names).text ≠ "" := by
          rcases List.eq_nil_or_concat names with rfl | ⟨front, last, rfl⟩
          · exact Path.text_entry_ne_empty hpaths.plain
          · rw [List.concat_eq_append, Path.descend_append]
            exact Path.text_entry_ne_empty (hplain last (by simp))
        have := (hleads hne rfl).directory
        rw [h'.home, htarget] at this
        rw [this]
        simp
  | file bytes =>
    refine Work.holds_within (Work.holds_ofFile (holds_bind.2
      (holds_request h.confined fun reply d' hreply => ?_)))
    obtain ⟨rfl, hread⟩ := happens_read hreply
    cases reply with
    | error error => exact ⟨h.confined, fun hok => by cases hok⟩
    | ok found =>
      have hfound := readFile_ok (hread found rfl)
      rw [Path.key_descend hplain, hhome, hpaths.source_eq,
        h.confined.eq (not_prefix_append hpaths.not_above hpaths.not_below names) (fun h => h),
        hentry] at hfound
      cases hfound
      refine holds_request h.confined fun reply d'' hreply => ?_
      have hwritten {part : ByteArray} (hok : d'.write
          ((directory.entry name).descend names) part = .ok d'') :
          d₁.Confined (τ <+: ·) Nowhere d'' := by
        refine h.confined.trans ((confined_write h.confined.sound hok).mono (fun k hk => ?_)
          fun _ h => .inl h)
        rw [hk, htarget]
        exact List.prefix_append ..
      rcases happens_write hreply with ⟨rfl, hok⟩ | ⟨⟨error, rfl⟩, hchanged⟩
      · have hget := get?_write hok
        rw [htarget] at hget
        refine ⟨hwritten hok, fun _ => ⟨⟨⟨hwritten hok, ?_, ?_⟩, ?_⟩, ?_⟩⟩
        · have hne : τ ≠ τ ++ names := by
            intro hself
            have hnil : names = [] := by simpa using hself
            have := h.agrees [] .directory (by rw [List.append_nil, h.top])
            rw [hnil] at hentry
            rw [hentry] at this
            cases this
          rw [hget, if_neg hne, h.top]
        · intro rest entry hrest
          rw [hget] at hrest
          split at hrest
          · rename_i hsame
            rw [List.append_cancel_left hsame, hentry, hrest]
          · exact h.agrees rest entry hrest
        · intro rest hrest
          rw [hget]
          split
          · simp
          · exact hrest
        · rw [hget, if_pos rfl]
          simp
      · refine ⟨?_, fun hok => by cases hok⟩
        rcases hchanged with rfl | ⟨part, hok⟩
        · exact h.confined
        · exact hwritten hok

/-- A directory that is new in its place and has nothing below it is the beginning of a copy. -/
theorem Copied.begin (h₁ : d₁.Sound)
    (hvacant : d₁.get? τ = none) (hsource : d₁.get? σ = some .directory)
    (hconfined : d₁.Confined (τ <+: ·) Nowhere d) (htop : d.get? τ = some .directory)
    (hbelow : ∀ rest, rest ≠ [] → d.get? (τ ++ rest) = d₁.get? (τ ++ rest)) :
    Copied d₁ σ τ d := by
  refine ⟨hconfined, htop, fun rest entry hentry => ?_⟩
  by_cases hempty : rest = []
  · rw [hempty, List.append_nil] at hentry ⊢
    rw [htop] at hentry
    rw [hsource, ← hentry]
  · rw [hbelow rest hempty, h₁.none_below hvacant] at hentry
    cases hentry

/-- Where there is no directory, nothing is copied. -/
theorem holds_copyBelow_missing (levels : Nat) {target : Path} (hd : d.Sound)
    (hsource : d.get? (source.key d.workingDirectory) ≠ some .directory) :
    Holds Happens (· = d) (copyBelow levels source target).run d fun result d' =>
      d' = d ∧ result ≠ .ok ⟨⟩ := by
  cases levels with
  | zero => exact Work.holds_within (Work.holds_throw ⟨rfl, by simp⟩)
  | succ levels =>
    refine Work.holds_bind (Work.holds_within (Work.holds_ofFile (Files.holds_entries hd rfl
      (fun found hleads _ => ?_) fun error => ?_)))
    · exact absurd hleads.directory hsource
    · exact ⟨rfl, by simp⟩

/-- What is copied from below a place of the source is all that is there.  The copy goes down along
the levels, and what it has made stays. -/
theorem holds_copyBelow (hpaths : CopyPaths d₁ source directory name σ τ) (h₁ : d₁.Sound)
    (levels : Nat) (names : List String) (hplain : ∀ n ∈ names, Path.IsPlain n)
    (h : Copied d₁ σ τ d) :
    Holds Happens (d₁.Confined (τ <+: ·) Nowhere)
      (copyBelow levels (source.descend names) ((directory.entry name).descend names)).run d
      fun result d' => d₁.Confined (τ <+: ·) Nowhere d' ∧
        (result = .ok ⟨⟩ → Extends d₁ σ τ d d' ∧ ∀ n, Covered d₁ σ τ (names ++ [n]) d') := by
  induction levels generalizing names d with
  | zero => exact Work.holds_within (Work.holds_throw ⟨h.confined, fun hok => by cases hok⟩)
  | succ levels ih =>
    refine Work.holds_bind (Work.holds_within (Work.holds_ofFile (Files.holds_entries
      h.confined.sound h.confined (fun found _ hshows => ?_) fun error => ?_)))
    swap
    · exact ⟨h.confined, fun hok => by cases hok⟩
    rw [Path.key_descend hplain, h.confined.home, hpaths.source_eq] at hshows
    have hsame (rest : List String) : d.get? (σ ++ rest) = d₁.get? (σ ++ rest) :=
      h.confined.eq (not_prefix_append hpaths.not_above hpaths.not_below rest) (fun h => h)
    refine (Work.holds_forM (F := d₁.Confined (τ <+: ·) Nowhere)
      (P := fun todo d' => Extends d₁ σ τ d d' ∧ (∀ e ∈ todo, e ∈ found) ∧
        ∀ e ∈ found, e ∉ todo → Covered d₁ σ τ (names ++ [e.1]) d')
      ⟨h.extends_self, fun e he => he, fun e he hnot => absurd he hnot⟩
      (fun d hP => hP.1.copied.confined) ?_).mono (fun _ h => h) ?_
    · rintro ⟨n, kind⟩ todo d₂ ⟨hextends, htodo, hdone⟩
      obtain ⟨entry, hentry, rfl⟩ := (hshows n kind).1 (htodo _ (by simp))
      rw [List.append_assoc, hsame] at hentry
      have hbelow : ∀ m ∈ names ++ [n], Path.IsPlain m := fun m hm =>
        h₁.plain_of_get? (by rw [hentry]; simp) m (List.mem_append_right _ hm)
      -- One entry, and what is below it if it is a directory.
      have hone : Holds Happens (d₁.Confined (τ <+: ·) Nowhere) (do
          copyEntry (source.descend (names ++ [n])) ((directory.entry name).descend (names ++ [n]))
            entry.kind
          if entry.kind = .directory then
            copyBelow levels (source.descend (names ++ [n]))
              ((directory.entry name).descend (names ++ [n])) : Work Unit).run d₂
          fun result d' => d₁.Confined (τ <+: ·) Nowhere d' ∧
            (result = .ok ⟨⟩ → Extends d₁ σ τ d₂ d' ∧ Covered d₁ σ τ (names ++ [n]) d') := by
        refine Work.holds_bind ((holds_copyEntry hpaths h₁ hextends.copied hbelow hentry).mono
          (fun _ h => h) ?_)
        rintro (failure | value) d₃ ⟨hconfined, hok⟩
        · exact ⟨hconfined, fun hok => by cases hok⟩
        obtain ⟨hextends₃, hmade⟩ := hok rfl
        cases entry with
        | file bytes =>
          refine Work.holds_pure ⟨hconfined, fun _ => ⟨hextends₃, fun rest hsome => ?_⟩⟩
          by_cases hempty : rest = []
          · rwa [hempty, List.append_nil]
          · rw [← List.append_assoc, h₁.none_below_file hentry hempty] at hsome
            exact absurd rfl hsome
        | directory =>
          refine (ih _ hbelow hextends₃.copied).mono (fun _ h => h) ?_
          rintro result d₄ ⟨hconfined, hok⟩
          refine ⟨hconfined, fun hresult => ?_⟩
          obtain ⟨hextends₄, hcovered⟩ := hok hresult
          refine ⟨hextends₃.trans hextends₄, fun rest hsome => ?_⟩
          cases rest with
          | nil =>
            rw [List.append_nil]
            exact hextends₄.kept _ hmade
          | cons m more =>
            rw [List.append_cons] at hsome ⊢
            exact hcovered m more hsome
      rw [Path.descend_append, Path.descend_append] at hone
      refine hone.mono (fun _ h => h) ?_
      rintro result d₃ ⟨hconfined, hok⟩
      refine ⟨hconfined, fun hresult => ?_⟩
      obtain ⟨hextends₃, hcovered⟩ := hok hresult
      refine ⟨hextends.trans hextends₃, fun e he => htodo e (by simp [he]), fun e he hnot => ?_⟩
      by_cases hself : e = (n, entry.kind)
      · rw [hself]
        exact hcovered
      · exact hextends₃.covered (hdone e he (by simp [hself, hnot]))
    · rintro result d₂ ⟨hconfined, hP⟩
      refine ⟨hconfined, fun hok => ?_⟩
      obtain ⟨hextends, -, hdone⟩ := hP hok
      refine ⟨hextends, fun n rest hsome => ?_⟩
      have hentry : d₁.get? (σ ++ (names ++ [n])) ≠ none := by
        intro hnone
        rw [← List.append_assoc, h₁.none_below hnone] at hsome
        exact hsome rfl
      obtain ⟨entry, hentry⟩ := Option.ne_none_iff_exists'.1 hentry
      refine hdone (n, entry.kind) ((hshows n _).2 ⟨entry, ?_, rfl⟩) (by simp) rest hsome
      rwa [List.append_assoc, hsame]

/-- A copy to a vacant name that succeeds is complete. -/
theorem holds_copyTree (hpaths : CopyPaths d₁ source directory name σ τ) (h₁ : d₁.Sound)
    (hvacant : Fits (directory.entry name) → d₁.get? τ = none) :
    Holds Happens (d₁.Confined (τ <+: ·) Nowhere)
      (copyTree source (directory.entry name)).run d₁ fun result d' =>
        d₁.Confined (τ <+: ·) Nowhere d' ∧
          (result = .ok ⟨⟩ → ∀ rest, d'.get? (τ ++ rest) = d₁.get? (σ ++ rest)) := by
  have hkey : (directory.entry name).key d₁.workingDirectory = τ := by
    rw [Path.key_entry hpaths.plain, hpaths.target_eq]
  -- The way to the target is there already, so only the target itself can be made.
  have honly {d}
      (h : d₁.Confined Nowhere (· ∈ (directory.entry name).trail d₁.workingDirectory) d) :
      d₁.Confined Nowhere (· = τ) d := by
    refine ⟨h.sound, h.home, fun k hk => ?_⟩
    rcases h.same k hk with heq | ⟨hmem, hnone, hdirectory⟩
    · exact .inl heq
    · rw [Path.trail_entry hpaths.plain, hkey] at hmem
      rcases List.mem_append.1 hmem with hmem | hmem
      · rw [hpaths.trail k hmem] at hnone
        cases hnone
      · exact .inr ⟨List.mem_singleton.1 hmem, hnone, hdirectory⟩
  have hwithin {d} (h : d₁.Confined Nowhere (· = τ) d) : d₁.Confined (τ <+: ·) Nowhere d :=
    h.mono (fun _ hk => hk.elim) fun k hk => .inr (hk ▸ List.prefix_refl _)
  refine Work.holds_bind (Work.holds_within (Work.holds_ofFile ((Files.holds_ensureDirectory_alone
    h₁).mono (fun d h => hwithin (honly h)) ?_)))
  rintro (error | value) d ⟨h, hleads⟩
  · exact ⟨hwithin (honly h), fun hok => by cases hok⟩
  · replace h := honly h
    have hleads := hleads (Path.text_entry_ne_empty hpaths.plain) rfl
    have htop := hleads.directory
    rw [h.home, hkey] at htop
    have hvacant := hvacant hleads.fits
    by_cases hsource : d₁.get? σ = some .directory
    swap
    · refine (holds_copyBelow_missing _ h.sound ?_).mono (fun d' hd' => hd' ▸ hwithin h) ?_
      · rwa [h.home, hpaths.source_eq, (hwithin h).eq hpaths.not_above fun h => h]
      · rintro result d' ⟨rfl, hfailed⟩
        exact ⟨hwithin h, fun hok => absurd hok hfailed⟩
    have hbegun : Copied d₁ σ τ d :=
      .begin h₁ hvacant hsource (hwithin h) htop fun rest hrest =>
        h.eq (fun h => h) (by simp [hrest])
    refine (holds_copyBelow hpaths h₁ _ [] (by simp) hbegun).mono (fun _ h => h) ?_
    rintro result d' ⟨hconfined, hok⟩
    refine ⟨hconfined, fun hresult rest => ?_⟩
    obtain ⟨hextends, hcovered⟩ := hok hresult
    cases hmade : d'.get? (τ ++ rest) with
    | some entry => exact (hextends.copied.agrees rest entry hmade).symm
    | none =>
      cases rest with
      | nil =>
        rw [List.append_nil, hextends.copied.top] at hmade
        cases hmade
      | cons n more =>
        by_contra hsome
        exact hcovered n more (Ne.symm hsome) hmade

end Store
end Exemplar
