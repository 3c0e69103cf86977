/-
Temporary names are free.

A disk tries one serial number after another until the name made of it is free.
Different numbers make different names, so among as many names as there are
entries and one more a free one is found, and what is made under it takes the
place of nothing.
-/
import Exemplar.Proofs.Changes
import Exemplar.Proofs.Digits
import Mathlib.Data.List.Perm.Subperm

namespace Exemplar

namespace Decimal

theorem slash_not_mem_natText (n : Nat) : '/' ∉ (natText n).toList := by
  intro h
  rw [natText, String.toList_ofList] at h
  exact absurd (isDigit_of_mem_natDigits h) (by decide)

end Decimal

namespace Path

/-- A name with a character that is no dot is plain if it has no slash. -/
theorem isPlain_of_mem {name : String} {c : Char} (hc : c ∈ name.toList) (hdot : c ≠ '.')
    (hslash : '/' ∉ name.toList) : IsPlain name := by
  refine ⟨?_, ?_, ?_, hslash⟩ <;> rintro rfl <;> simp_all

end Path

namespace Disk

variable {d : Disk} {directory : Path} {beginning ending : String}

theorem natOfDigits_serialText (serial : Nat) :
    Decimal.natOfDigits (serialText serial).toList = serial := by
  show Nat.ofDigitChars 10 _ 0 = serial
  rw [serialText, String.toList_ofList, Nat.ofDigitChars_append, Nat.ofDigitChars_replicate_zero,
    Nat.mul_zero]
  exact Decimal.natOfDigits_natDigits serial

theorem serialText_injective {m n : Nat} (h : serialText m = serialText n) : m = n := by
  rw [← natOfDigits_serialText m, h, natOfDigits_serialText]

theorem isDigit_of_mem_serialText {serial : Nat} {c : Char}
    (h : c ∈ (serialText serial).toList) : c.isDigit = true := by
  rw [serialText, String.toList_ofList] at h
  rcases List.mem_append.1 h with h | h
  · rw [(List.mem_replicate.1 h).2]
    decide
  · exact Decimal.isDigit_of_mem_natDigits h

/-- The name that a disk makes of a serial number. -/
def temporaryName (beginning : String) (serial : Nat) (ending : String) : String :=
  beginning ++ serialText serial ++ ending

theorem temporaryName_injective {m n : Nat}
    (h : temporaryName beginning m ending = temporaryName beginning n ending) : m = n := by
  have hlist := congrArg String.toList h
  simp only [temporaryName, String.toList_append, List.append_assoc, List.append_cancel_left_eq,
    List.append_cancel_right_eq] at hlist
  exact serialText_injective (String.toList_inj.1 hlist)

theorem isPlain_temporaryName (hbeginning : '/' ∉ beginning.toList)
    (hending : '/' ∉ ending.toList) (serial : Nat) :
    Path.IsPlain (temporaryName beginning serial ending) := by
  obtain ⟨c, hc⟩ := List.exists_mem_of_ne_nil _ (Decimal.natDigits_ne_nil serial)
  have hdigit := Decimal.isDigit_of_mem_natDigits hc
  refine Path.isPlain_of_mem (c := c) ?_ ?_ ?_
  · simp [temporaryName, serialText, hc]
  · rintro rfl
    exact absurd hdigit (by decide)
  · simp only [temporaryName, String.toList_append, List.mem_append, not_or]
    exact ⟨⟨hbeginning, fun h => absurd (isDigit_of_mem_serialText h) (by decide)⟩, hending⟩

/-- The path of an entry under a temporary name. -/
def temporaryPath (d : Disk) (directory : Path) (name : String) : Path :=
  (d.absolute directory).entry name

/-- Whether a temporary name is in use. -/
def isTaken (d : Disk) (path : Path) : Bool :=
  match d.resolve path with
  | .ok key => (d.get? key).isSome
  | .error _ => false

/-- The serial number of the name that a disk chooses. -/
def freeSerial (d : Disk) (directory : Path) (beginning ending : String) : Nat :=
  (((List.range d.entries.length).map (d.serial + ·)).find? fun serial =>
    !d.isTaken (d.temporaryPath directory (temporaryName beginning serial ending))).getD
      (d.serial + d.entries.length)

/-- Among more names than there are entries one is free. -/
theorem freeSerial_free (d : Disk) (directory : Path) (hbeginning : '/' ∉ beginning.toList)
    (hending : '/' ∉ ending.toList) :
    d.isTaken (d.temporaryPath directory
      (temporaryName beginning (d.freeSerial directory beginning ending) ending)) = false := by
  rw [freeSerial]
  cases hfind : ((List.range d.entries.length).map (d.serial + ·)).find? fun serial =>
      !d.isTaken (d.temporaryPath directory (temporaryName beginning serial ending)) with
  | some serial => simpa using List.find?_some hfind
  | none =>
    by_contra htaken
    -- Otherwise all of these names are those of different entries, which are too few.
    let key (i : Nat) : Key := (d.absolute directory).key d.workingDirectory
      ++ [temporaryName beginning (d.serial + i) ending]
    have hkey (i : Nat) (hi : i < d.entries.length + 1) : key i ∈ d.entries.map (·.1) := by
      have htaken : d.isTaken (d.temporaryPath directory
          (temporaryName beginning (d.serial + i) ending)) = true := by
        by_cases hlast : i = d.entries.length
        · rw [hlast]
          simpa using htaken
        · have := List.find?_eq_none.1 hfind (d.serial + i)
            (List.mem_map.2 ⟨i, List.mem_range.2 (by omega), rfl⟩)
          simpa using this
      rw [isTaken] at htaken
      split at htaken
      · rename_i k hk
        have hplain := isPlain_temporaryName hbeginning hending (d.serial + i)
        rw [(resolve_ok hk).1, temporaryPath, Path.key_entry hplain] at htaken
        obtain ⟨entry, hentry⟩ := Option.isSome_iff_exists.1 htaken
        rw [get?_of_ne (by simp), List.lookup_eq_some_iff] at hentry
        obtain ⟨before, after, hentries, -⟩ := hentry
        exact List.mem_map.2 ⟨(key i, entry), by rw [hentries]; simp [key], rfl⟩
      · cases htaken
    have hinjective : ∀ i j, key i = key j → i = j := by
      intro i j hij
      have := temporaryName_injective (List.singleton_inj.1 (List.append_cancel_left hij))
      omega
    have hnodup : ((List.range (d.entries.length + 1)).map key).Nodup :=
      List.Nodup.map (fun i j => hinjective i j) List.nodup_range
    have hsubset : (List.range (d.entries.length + 1)).map key ⊆ d.entries.map (·.1) := by
      intro k hk
      obtain ⟨i, hi, rfl⟩ := List.mem_map.1 hk
      exact hkey i (List.mem_range.1 hi)
    have hlength := (List.subperm_of_subset hnodup hsubset).length_le
    rw [List.length_map, List.length_range, List.length_map] at hlength
    omega

/-- The path of the name that a disk chooses. -/
def freePath (d : Disk) (directory : Path) (beginning ending : String) : Path :=
  d.temporaryPath directory
    (temporaryName beginning (d.freeSerial directory beginning ending) ending)

theorem newEntry_eq (d : Disk) (directory : Path) (beginning ending : String) (entry : Entry) :
    d.newEntry directory beginning ending entry =
      match d.resolve (d.freePath directory beginning ending) with
      | .ok key => (.ok (d.freePath directory beginning ending),
          { d.put key entry with serial := d.freeSerial directory beginning ending + 1 })
      | .error error => (.error (.about (d.freePath directory beginning ending) error), d) := rfl

/-- A temporary entry is made under a free name in the directory, or nothing is made. -/
theorem newEntry_cases (d : Disk) (directory : Path) (entry : Entry)
    (hbeginning : '/' ∉ beginning.toList)
    (hending : '/' ∉ ending.toList) :
    (∃ error, d.newEntry directory beginning ending entry = (.error error, d)) ∨
      ∃ serial key, d.resolve (d.temporaryPath directory (temporaryName beginning serial ending))
          = .ok key ∧ d.get? key = none ∧
        d.newEntry directory beginning ending entry =
          (.ok (d.temporaryPath directory (temporaryName beginning serial ending)),
            { d.put key entry with serial := serial + 1 }) := by
  have hfree := freeSerial_free d directory hbeginning hending
  rw [← freePath, isTaken] at hfree
  rw [newEntry_eq]
  cases hresolve : d.resolve (d.freePath directory beginning ending) with
  | error error => exact .inl ⟨_, rfl⟩
  | ok key =>
    rw [hresolve] at hfree
    exact .inr ⟨_, key, hresolve, by simpa using hfree, rfl⟩

end Disk
end Exemplar
