/-
The entries of a store that belong to a fixture.

They are of four parts: its predictions, the hidden files in which predictions
are staged, its artifact, and the hidden entries beside the artifact.  As long as
names of fixtures have no dots and dashes, an entry belongs to one part of one
fixture only, and if neither directory of the store is reached through an entry
of a fixture, then what lies below an entry belongs to the same part of the same
fixture.  This is what keeps the fixtures apart, also where both directories are
one.
-/
import Exemplar.Proofs.Faults
import Exemplar.Store.Artifacts
import Exemplar.Store.Predictions

namespace Exemplar
namespace Store

open Disk

/-- A name that a fixture can have. -/
structure IsFixtureName (name : String) : Prop where
  ne_empty : name ≠ ""
  no_dot : '.' ∉ name.toList
  no_dash : '-' ∉ name.toList
  no_slash : '/' ∉ name.toList

theorem isFixtureName_iff {name : String} : IsFixtureName name ↔
    name ≠ "" ∧ '.' ∉ name.toList ∧ '-' ∉ name.toList ∧ '/' ∉ name.toList :=
  ⟨fun h => ⟨h.ne_empty, h.no_dot, h.no_dash, h.no_slash⟩,
    fun h => ⟨h.1, h.2.1, h.2.2.1, h.2.2.2⟩⟩

instance (name : String) : Decidable (IsFixtureName name) := decidable_of_iff' _ isFixtureName_iff

/-- The kinds of entries that belong to a fixture. -/
inductive Part where
  | sheet
  | staged
  | artifact
  | hidden
  deriving DecidableEq, Repr

namespace Part

def all : List Part := [sheet, staged, artifact, hidden]

theorem mem_all (p : Part) : p ∈ all := by cases p <;> decide

/-- Whether an entry of this part of a fixture can have the name `entry`. -/
def Names (name entry : String) : Part → Prop
  | sheet => entry = name ++ ".csv"
  | staged => (stagedBeginning name).toList <+: entry.toList ∧
      stagedEnding.toList <:+ entry.toList
  | artifact => entry = name
  | hidden => (hiddenBeginning name).toList <+: entry.toList

instance (name entry : String) (p : Part) : Decidable (p.Names name entry) :=
  match p with
  | sheet => inferInstanceAs (Decidable (entry = name ++ ".csv"))
  | staged => inferInstanceAs (Decidable (_ ∧ _))
  | artifact => inferInstanceAs (Decidable (entry = name))
  | hidden => inferInstanceAs (Decidable (_ <+: _))

/-- The key of the directory in which entries of this part stand. -/
def directory (s : Store) (home : Key) : Part → Key
  | sheet | staged => s.sheetDirectory.key home
  | artifact | hidden => s.artifactDirectory.key home

end Part

/-! ## Names tell the parts apart -/

theorem IsFixtureName.cons {name : String} (h : IsFixtureName name) :
    ∃ first rest, name.toList = first :: rest ∧ first ≠ '.' := by
  obtain ⟨first, rest, hlist⟩ := List.exists_cons_of_ne_nil
    (fun e => h.ne_empty (String.toList_eq_nil_iff.1 e) : name.toList ≠ [])
  refine ⟨first, rest, hlist, ?_⟩
  rintro rfl
  exact h.no_dot (by simp [hlist])

/-- A dot or a dash ends the name of a fixture. -/
theorem IsFixtureName.append_cancel {m n : String} (hm : IsFixtureName m) (hn : IsFixtureName n)
    {a b : Char} {front back : List Char} (ha : a = '.' ∨ a = '-') (hb : b = '.' ∨ b = '-')
    (h : m.toList ++ a :: front = n.toList ++ b :: back) : m = n ∧ a = b := by
  have htake {l : String} (hl : IsFixtureName l) {c : Char} {rest : List Char}
      (hc : c = '.' ∨ c = '-') :
      (l.toList ++ c :: rest).takeWhile (fun x => x ≠ '.' ∧ x ≠ '-') = l.toList := by
    rw [List.takeWhile_append_of_pos, List.takeWhile_cons_of_neg, List.append_nil]
    · rcases hc with rfl | rfl <;> simp
    · intro x hx
      have hdot : x ≠ '.' := by rintro rfl; exact hl.no_dot hx
      have hdash : x ≠ '-' := by rintro rfl; exact hl.no_dash hx
      simp [hdot, hdash]
  have hmn : m.toList = n.toList := by rw [← htake hm ha, h, htake hn hb]
  rw [hmn, List.append_cancel_left_eq, List.cons.injEq] at h
  exact ⟨String.toList_inj.1 hmn, h.1⟩

/-- An entry whose name starts with a dot is hidden or staged. -/
theorem Part.names_dot {name entry : String} {p : Part} (h : p.Names name entry)
    (hp : p = .staged ∨ p = .hidden) :
    ∃ mark rest, (mark = '.' ∨ mark = '-') ∧ entry.toList = '.' :: (name.toList ++ mark :: rest) ∧
      (mark = '.' ↔ p = .hidden) := by
  rcases hp with rfl | rfl
  · obtain ⟨rest, hrest⟩ := h.1
    exact ⟨'-', rest, .inr rfl, by simp [← hrest, stagedBeginning], by simp⟩
  · obtain ⟨rest, hrest⟩ := h
    exact ⟨'.', rest, .inl rfl, by simp [← hrest, hiddenBeginning], by simp⟩

theorem Part.names_visible {name entry : String} {p : Part} (hname : IsFixtureName name)
    (h : p.Names name entry) (hp : p = .sheet ∨ p = .artifact) :
    ∃ first rest, entry.toList = first :: rest ∧ first ≠ '.' := by
  obtain ⟨first, rest, hlist, hfirst⟩ := hname.cons
  rcases hp with rfl | rfl
  · have : entry = name ++ ".csv" := h
    exact ⟨first, rest ++ ".csv".toList, by simp [this, hlist], hfirst⟩
  · have : entry = name := h
    exact ⟨first, rest, by rw [this, hlist], hfirst⟩

/-- An entry belongs to one part of one fixture. -/
theorem Part.names_unique {m n entry : String} {p q : Part} (hm : IsFixtureName m)
    (hn : IsFixtureName n) (hp : p.Names m entry) (hq : q.Names n entry) : p = q ∧ m = n := by
  have hsplit (r : Part) : (r = .sheet ∨ r = .artifact) ∨ (r = .staged ∨ r = .hidden) := by
    cases r <;> simp
  rcases hsplit p with hpv | hpd
  · rcases hsplit q with hqv | hqd
    · have hnot {k l : String} (hl : IsFixtureName l) (h : l = k ++ ".csv") : False :=
        hl.no_dot (by simp [h])
      rcases hpv with rfl | rfl <;> rcases hqv with rfl | rfl
      · have h : m ++ ".csv" = n ++ ".csv" := hp.symm.trans hq
        refine ⟨rfl, String.toList_inj.1 ?_⟩
        simpa using congrArg String.toList h
      · exact (hnot hn (hq.symm.trans hp)).elim
      · exact (hnot hm (hp.symm.trans hq)).elim
      · exact ⟨rfl, hp.symm.trans hq⟩
    · obtain ⟨first, rest, hlist, hfirst⟩ := Part.names_visible hm hp hpv
      obtain ⟨mark, after, -, hlist', -⟩ := Part.names_dot hq hqd
      rw [hlist, List.cons.injEq] at hlist'
      exact absurd hlist'.1 hfirst
  · rcases hsplit q with hqv | hqd
    · obtain ⟨first, rest, hlist, hfirst⟩ := Part.names_visible hn hq hqv
      obtain ⟨mark, after, -, hlist', -⟩ := Part.names_dot hp hpd
      rw [hlist, List.cons.injEq] at hlist'
      exact absurd hlist'.1 hfirst
    · obtain ⟨a, front, ha, hlist, hkind⟩ := Part.names_dot hp hpd
      obtain ⟨b, back, hb, hlist', hkind'⟩ := Part.names_dot hq hqd
      rw [hlist, List.cons.injEq] at hlist'
      obtain ⟨hmn, rfl⟩ := hm.append_cancel hn ha hb hlist'.2
      refine ⟨?_, hmn⟩
      rcases hpd with rfl | rfl <;> rcases hqd with rfl | rfl <;> simp_all

/-- What starts with a dot before a name is not what goes on with a file ending after it. -/
theorem append_ending_ne (name : List Char) {mark : Char} (hmark : mark = '.' ∨ mark = '-')
    (rest : List Char) : name ++ ".csv".toList ≠ '.' :: (name ++ mark :: rest) := by
  induction name with
  | nil =>
    intro h
    have hsecond : 'c' = mark := (List.cons.inj (List.cons.inj h).2).1
    rcases hmark with rfl | rfl <;> cases hsecond
  | cons c name ih =>
    intro h
    obtain ⟨rfl, h⟩ := List.cons.inj h
    exact ih h

/-- An entry belongs to one part of a fixture, whatever the name of the fixture is. -/
theorem Part.names_own {name entry : String} {p q : Part} (hp : p.Names name entry)
    (hq : q.Names name entry) : p = q := by
  have hdot {r t : Part} (hr : r = .staged ∨ r = .hidden) (ht : t = .sheet ∨ t = .artifact)
      (hr' : r.Names name entry) (ht' : t.Names name entry) : False := by
    obtain ⟨mark, rest, hmark, hlist, -⟩ := Part.names_dot hr' hr
    rcases ht with rfl | rfl
    · have hentry : entry = name ++ ".csv" := ht'
      rw [hentry, String.toList_append] at hlist
      exact append_ending_ne _ hmark rest hlist
    · have hentry : entry = name := ht'
      have hlength := congrArg List.length hlist
      simp only [hentry, List.length_cons, List.length_append] at hlength
      omega
  have hcsv (h : Part.sheet.Names name entry) (h' : Part.artifact.Names name entry) : False := by
    have heq : name ++ ".csv" = name := Eq.trans (Eq.symm h) h'
    simpa using congrArg (fun text : String => text.toList.length) heq
  have hmarks (h : Part.staged.Names name entry) (h' : Part.hidden.Names name entry) : False := by
    obtain ⟨rest, hrest⟩ := h.1
    obtain ⟨rest', hrest'⟩ := h'
    rw [← hrest'] at hrest
    simp [stagedBeginning, hiddenBeginning] at hrest
  cases p <;> cases q
  case sheet.sheet | staged.staged | artifact.artifact | hidden.hidden => rfl
  case sheet.artifact => exact (hcsv hp hq).elim
  case artifact.sheet => exact (hcsv hq hp).elim
  case staged.hidden => exact (hmarks hp hq).elim
  case hidden.staged => exact (hmarks hq hp).elim
  case staged.sheet | hidden.sheet => exact (hdot (by simp) (.inl rfl) hp hq).elim
  case staged.artifact | hidden.artifact => exact (hdot (by simp) (.inr rfl) hp hq).elim
  case sheet.staged | sheet.hidden => exact (hdot (by simp) (.inl rfl) hq hp).elim
  case artifact.staged | artifact.hidden => exact (hdot (by simp) (.inr rfl) hq hp).elim

/-! ## Keys of the parts -/

/-- The keys at and below the entries of one part of a fixture. -/
def Owns (s : Store) (home : Key) (p : Part) (name : String) (k : Key) : Prop :=
  ∃ entry, p.Names name entry ∧ p.directory s home ++ [entry] <+: k

/-- Ownership can be read off the first name below the directory of the part. -/
theorem owns_iff {s : Store} {home k : Key} {p : Part} {name : String} :
    s.Owns home p name k ↔ p.directory s home <+: k ∧
      ∃ entry ∈ (k.drop (p.directory s home).length).head?, p.Names name entry := by
  constructor
  · rintro ⟨entry, hentry, rest, rfl⟩
    refine ⟨⟨entry :: rest, by simp⟩, entry, by simp, hentry⟩
  · rintro ⟨⟨rest, rfl⟩, entry, hhead, hentry⟩
    rw [List.drop_left] at hhead
    obtain ⟨more, rfl⟩ := List.head?_eq_some_iff.1 (Option.mem_def.1 hhead)
    exact ⟨entry, hentry, more, by simp⟩

instance (s : Store) (home : Key) (p : Part) (name : String) (k : Key) :
    Decidable (s.Owns home p name k) := decidable_of_iff' _ owns_iff

/-- The ways to the two directories of a store, which are made if they are missing. -/
def OnTheWay (s : Store) (home k : Key) : Prop :=
  k ∈ s.sheetDirectory.trail home ∨ k ∈ s.artifactDirectory.trail home

/-- Neither directory of a store is reached through an entry of a fixture. -/
def Apart (s : Store) (home : Key) (name : String) : Prop :=
  ∀ p k, s.OnTheWay home k → ¬ s.Owns home p name k

theorem apart_iff {s : Store} {home : Key} {name : String} : s.Apart home name ↔
    ∀ p ∈ Part.all, ∀ k ∈ s.sheetDirectory.trail home ++ s.artifactDirectory.trail home,
      ¬ s.Owns home p name k := by
  simp only [Apart, OnTheWay, List.mem_append]
  exact ⟨fun h p _ k hk => h p k hk, fun h p k hk => h p (Part.mem_all p) k hk⟩

instance (s : Store) (home : Key) (name : String) : Decidable (s.Apart home name) :=
  decidable_of_iff' _ apart_iff

variable {s : Store} {home : Key} {m n : String} {p q : Part} {k : Key}

theorem Apart.not_owns_directory (h : s.Apart home n) (p q : Part) :
    ¬ s.Owns home p n (q.directory s home) := by
  refine h p _ ?_
  cases q
  case sheet | staged => exact .inl (Path.key_mem_trail _ _)
  case artifact | hidden => exact .inr (Path.key_mem_trail _ _)

/-- What is owned twice is owned by way of one entry. -/
theorem owns_entry_unique (hma : s.Apart home m) (hna : s.Apart home n)
    (hp : s.Owns home p m k) (hq : s.Owns home q n k) :
    ∃ entry, p.Names m entry ∧ q.Names n entry := by
  obtain ⟨e, he, hpre⟩ := hp
  obtain ⟨f, hf, hpre'⟩ := hq
  have heq : p.directory s home ++ [e] = q.directory s home ++ [f] := by
    rcases List.prefix_or_prefix_of_prefix hpre hpre' with h | h
    · rcases List.prefix_concat_iff.1 h with h | h
      · exact h
      · exact absurd ⟨e, he, h⟩ (hma.not_owns_directory p q)
    · rcases List.prefix_concat_iff.1 h with h | h
      · exact h.symm
      · exact absurd ⟨f, hf, h⟩ (hna.not_owns_directory q p)
  obtain ⟨-, hef⟩ := List.append_inj' heq rfl
  rw [List.singleton_inj] at hef
  subst hef
  exact ⟨e, he, hf⟩

/-- What is owned is owned by one part of one fixture. -/
theorem owns_unique (hm : IsFixtureName m) (hn : IsFixtureName n) (hma : s.Apart home m)
    (hna : s.Apart home n) (hp : s.Owns home p m k) (hq : s.Owns home q n k) :
    p = q ∧ m = n := by
  obtain ⟨e, he, hf⟩ := owns_entry_unique hma hna hp hq
  exact Part.names_unique hm hn he hf

theorem owns_own (hna : s.Apart home n) (hp : s.Owns home p n k) (hq : s.Owns home q n k) :
    p = q := by
  obtain ⟨e, he, hf⟩ := owns_entry_unique hna hna hp hq
  exact Part.names_own he hf

theorem owns_entry {entry : String} (h : p.Names n entry) (rest : List String) :
    s.Owns home p n (p.directory s home ++ [entry] ++ rest) :=
  ⟨entry, h, List.prefix_append ..⟩

theorem owns_self {entry : String} (h : p.Names n entry) :
    s.Owns home p n (p.directory s home ++ [entry]) :=
  ⟨entry, h, List.prefix_refl _⟩

theorem Owns.below (h : s.Owns home p n k) (rest : List String) :
    s.Owns home p n (k ++ rest) := by
  obtain ⟨entry, hentry, hpre⟩ := h
  exact ⟨entry, hentry, hpre.trans (List.prefix_append ..)⟩

/-! ## What is touched of a fixture -/

/-- The keys of some parts of a fixture. -/
def Within (s : Store) (home : Key) (name : String) (parts : Part → Prop) (k : Key) : Prop :=
  ∃ p, parts p ∧ s.Owns home p name k

/-- Nothing but some parts of a fixture has changed, and directories on the way to those of the
store may have been made. -/
abbrev Touches (s : Store) (home : Key) (name : String) (parts : Part → Prop) (d d' : Disk) :
    Prop :=
  d.Confined (s.Within home name parts) (s.OnTheWay home) d'

section Touches

variable {parts parts' : Part → Prop} {d d' d'' : Disk} {change grow : Key → Prop}

theorem Touches.of_owns (h : d.Confined change grow d')
    (hchange : ∀ k, change k → ∃ p, parts p ∧ s.Owns home p n k)
    (hgrow : ∀ k, grow k → s.OnTheWay home k) : s.Touches home n parts d d' :=
  h.mono hchange fun k hk => .inl (hgrow k hk)

theorem Touches.widen (h : s.Touches home n parts d d') (hparts : ∀ p, parts p → parts' p) :
    s.Touches home n parts' d d' :=
  h.mono (fun _ ⟨p, hp, hk⟩ => ⟨p, hparts p hp, hk⟩) fun _ hk => .inl hk

/-- The parts that are not touched stay, those of other fixtures among them. -/
theorem Touches.eq (h : s.Touches home n parts d d') (hn : IsFixtureName n)
    (hna : s.Apart home n) (hm : IsFixtureName m) (hma : s.Apart home m)
    (hother : m = n → ¬ parts p) (hk : s.Owns home p m k) : d'.get? k = d.get? k := by
  refine Confined.eq h ?_ fun hway => hma p k hway hk
  rintro ⟨q, hq, hqk⟩
  obtain ⟨rfl, rfl⟩ := owns_unique hm hn hma hna hk hqk
  exact hother rfl hq

/-- The other parts of the fixture stay. -/
theorem Touches.eq_own (h : s.Touches home n parts d d') (hna : s.Apart home n)
    (hother : ¬ parts p) (hk : s.Owns home p n k) : d'.get? k = d.get? k := by
  refine Confined.eq h ?_ fun hway => hna p k hway hk
  rintro ⟨q, hq, hqk⟩
  exact hother (owns_own hna hk hqk ▸ hq)

theorem Touches.areDirectories {keys : List Key} (h : s.Touches home n parts d d')
    (hna : s.Apart home n) (hkeys : ∀ k ∈ keys, s.OnTheWay home k)
    (hdirectories : d.AreDirectories keys) : d'.AreDirectories keys :=
  Confined.areDirectories h (fun k hk ⟨p, _, howns⟩ => hna p k (hkeys k hk) howns) hdirectories

end Touches

/-! ## Names and paths of the parts -/

/-- The key of a fixture's predictions. -/
def sheetKey (s : Store) (home : Key) (name : String) : Key :=
  s.sheetDirectory.key home ++ [name ++ ".csv"]

/-- The key of a fixture's artifact. -/
def artifactKey (s : Store) (home : Key) (name : String) : Key :=
  s.artifactDirectory.key home ++ [name]

theorem owns_sheetKey (s : Store) (home : Key) (name : String) :
    s.Owns home .sheet name (s.sheetKey home name) := owns_self (p := .sheet) rfl

theorem owns_artifactKey (s : Store) (home : Key) (name : String) (rest : List String) :
    s.Owns home .artifact name (s.artifactKey home name ++ rest) :=
  owns_entry (p := .artifact) rfl rest

theorem IsFixtureName.isPlain (h : IsFixtureName n) : Path.IsPlain n := by
  obtain ⟨first, rest, hlist, hfirst⟩ := h.cons
  exact Path.isPlain_of_mem (c := first) (by simp [hlist]) hfirst h.no_slash

theorem isPlain_sheet (h : Path.IsPlain n) : Path.IsPlain (n ++ ".csv") := by
  refine Path.isPlain_of_mem (c := 'c') (by simp) (by decide) ?_
  simpa using h.no_slash

theorem key_sheetPath (h : Path.IsPlain n) :
    (s.sheetPath n).key home = s.sheetKey home n := Path.key_entry (isPlain_sheet h)

theorem key_artifactPath (h : Path.IsPlain n) :
    (s.artifactPath n).key home = s.artifactKey home n := Path.key_entry h

theorem slash_staged (h : Path.IsPlain n) : '/' ∉ (stagedBeginning n).toList := by
  simpa [stagedBeginning] using h.no_slash

theorem isStaged_entry {entry : String} (base : Path) (h : Path.IsPlain entry) :
    isStaged n (base.entry entry) = true ↔ Part.staged.Names n entry := by
  simp [isStaged, Path.nameBeginsWith, Path.nameEndsIn, Path.nameChars_entry h, Part.Names]

/-- The name of a hidden neighbour of an artifact. -/
def neighbourName (name purpose : String) (process : Nat) : String :=
  hiddenBeginning name ++ purpose ++ "-" ++ Decimal.natText process

theorem names_neighbour (n purpose : String) (process : Nat) :
    Part.hidden.Names n (neighbourName n purpose process) := by
  simp [Part.Names, neighbourName, List.append_assoc]

theorem isPlain_neighbour (h : Path.IsPlain n) (purpose : String) (hpurpose : '/' ∉ purpose.toList)
    (process : Nat) : Path.IsPlain (neighbourName n purpose process) := by
  refine Path.isPlain_of_mem (c := '-') (by simp [neighbourName]) (by decide) ?_
  have := h.no_slash
  have := Decimal.slash_not_mem_natText process
  simp [neighbourName, hiddenBeginning, *]

end Store
end Exemplar
