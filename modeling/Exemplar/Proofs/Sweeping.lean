/-
Sweeping and clearing on a disk on which every request can fail.

A sweep removes as much as it can and answers nothing, so all that is said of it
is what it leaves alone.  Clearing answers, and where it succeeds there is
nothing left that could be mixed with what comes next.
-/
import Exemplar.Proofs.Operations
import Exemplar.Proofs.Parts

namespace Exemplar

namespace Action

variable {R : System} {I : Disk → Prop} {d : Disk}

/-- What every pass of a loop keeps, the loop keeps. -/
theorem holds_forM {α : Type} {xs : List α} {pass : α → Action PUnit} (h : I d)
    (hpass : ∀ x ∈ xs, ∀ d, I d → Holds R I (pass x) d fun _ d' => I d') :
    Holds R I (xs.forM pass) d fun _ d' => I d' := by
  induction xs generalizing d with
  | nil => exact h
  | cons x rest ih =>
    obtain ⟨hx, hrest⟩ := List.forall_mem_cons.1 hpass
    exact holds_bind.2 ((hx d h).mono (fun _ h => h) fun _ d' h' => ih h' hrest)

end Action

namespace Store

open Exemplar.Action Disk

variable {change grow : Key → Prop} {d₀ d : Disk} {path directory : Path}

theorem holds_removeAny (h : d₀.Confined change grow d)
    (hchange : ∀ names, change (path.key d₀.workingDirectory ++ names)) :
    Holds Happens (d₀.Confined change grow) (removeAny path) d fun _ d' =>
      d₀.Confined change grow d' := by
  have htree := (Files.holds_removeTree h hchange).mono (fun _ h => h) fun _ _ h => h.1
  refine holds_bind.2 (Files.holds_isDirectory h (fun _ => htree) ?_)
  refine holds_request h fun reply d' hreply => ?_
  refine h.trans (((happens_removeFile hreply).confined h.sound
    fun d' hd' => confined_removeFile h.sound hd').mono (fun k hk => ?_) fun _ hk => hk.elim)
  rw [hk, h.home]
  simpa using hchange []

/-- A sweep changes only what is at and below the stale entries. -/
theorem holds_sweep {stale : Path → Bool} (h : d₀.Confined change grow d)
    (hchange : ∀ name, Path.IsPlain name → stale (directory.entry name) = true → ∀ rest,
      change (directory.key d₀.workingDirectory ++ [name] ++ rest)) :
    Holds Happens (d₀.Confined change grow) (sweep directory stale) d fun _ d' =>
      d₀.Confined change grow d' := by
  refine holds_bind.2 (holds_request h fun reply d' hreply => ?_)
  obtain ⟨rfl, hlist⟩ := happens_list hreply
  cases reply with
  | error error => exact h
  | ok names =>
    refine holds_forM h fun path hpath d₁ h₁ => ?_
    obtain ⟨hmem, hstale⟩ := List.mem_filter.1 hpath
    obtain ⟨name, hname, rfl⟩ := List.mem_map.1 hmem
    have hplain : Path.IsPlain name :=
      h.sound.plain_of_get? (((list_ok h.sound (hlist names rfl)).2 name).1 hname) name (by simp)
    refine holds_bind.2 ((holds_removeAny h₁ fun rest => ?_).mono (fun _ h => h) fun _ _ h => h)
    rw [Path.key_entry hplain]
    exact hchange name hplain hstale rest

/-- Where clearing succeeds, nothing is left under the path, unless it is beyond the limits. -/
theorem holds_clear {name : String} (hname : Path.IsPlain name)
    (hd : d.Sound) (htrail : d.AreDirectories (directory.trail d.workingDirectory))
    (houtside : ∀ k ∈ directory.trail d.workingDirectory,
      ¬ directory.key d.workingDirectory ++ [name] <+: k) :
    Holds Happens (d.Confined (directory.key d.workingDirectory ++ [name] <+: ·) Nowhere)
      (clear (directory.entry name)).run d fun result d' =>
        d.Confined (directory.key d.workingDirectory ++ [name] <+: ·) Nowhere d' ∧
          (result = .ok () → Fits (directory.entry name) →
            d'.get? (directory.key d.workingDirectory ++ [name]) = none) := by
  refine Work.holds_bind (Work.holds_ofAction (Files.holds_pathExists (.refl hd) ?_ ?_))
  · rw [← Path.key_entry hname] at houtside ⊢
    refine Work.holds_within (Work.holds_ofFile
      ((Files.holds_removeTree_alone hd).mono (fun _ h => h) ?_))
    rintro (error | value) d' ⟨h', hgone⟩
    · exact ⟨h', fun hok => by cases hok⟩
    · refine ⟨h', fun _ _ => hgone ?_ rfl⟩
      rw [parentTrail_entry hname]
      exact houtside
  · intro hnone
    exact Work.holds_pure ⟨.refl hd, fun _ hfits => none_of_find_entry hname htrail hnone hfits⟩

end Store
end Exemplar
