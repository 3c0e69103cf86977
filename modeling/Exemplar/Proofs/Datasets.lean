/-
What becomes of the datasets.

Fixtures are built in the directory that their datasets are read from, and nothing
changes there but what stands under the names of the fixtures.  So a dataset stays as
it is unless it stands there itself, or its path leads through something that does.
Names of fixtures are kept apart from each other, but not from the files of datasets.
-/
import Exemplar.Proofs.Looking
import Exemplar.Proofs.Planning
import Exemplar.Proofs.Sessions

namespace Exemplar

open Exemplar.Action Disk

namespace Store

variable {s : Store} {home : Key} {name : String} {names : List String} {d d' d'' : Disk}

/-- A path that leads through nothing that is kept of a fixture. -/
def Avoids (s : Store) (home : Key) (name : String) (path : Path) : Prop :=
  ∀ k ∈ path.trail home, ∀ p ∈ Part.all, ¬ s.Owns home p name k

instance (s : Store) (home : Key) (name : String) (path : Path) :
    Decidable (s.Avoids home name path) := by
  unfold Avoids
  infer_instance

/-- What a path leads to is still there when nothing is touched that it leads through. -/
theorem Touches.find {parts : Part → Prop} {path : Path} {key : Key} {entry : Entry}
    (h : s.Touches home name parts d d') (hhome : d.workingDirectory = home)
    (havoids : s.Avoids home name path) (hfind : d.find path = .ok (key, entry)) :
    d'.find path = .ok (key, entry) := by
  refine Confined.find h hfind fun k hk ⟨p, _, hp⟩ => ?_
  rw [hhome] at hk
  exact havoids k hk p (Part.mem_all p) hp

/-- What can become of a disk while fixtures of some names are built, one after the other. -/
inductive Develops (s : Store) (home : Key) (names : List String) (d : Disk) : Disk → Prop
  | start : Develops s home names d d
  | touch {name : String} {d' d'' : Disk} : Develops s home names d d' → name ∈ names →
      s.Touches home name (fun _ => True) d' d'' → Develops s home names d d''

namespace Develops

theorem of_touches (hname : name ∈ names) (h : s.Touches home name (fun _ => True) d d') :
    s.Develops home names d d' :=
  .touch .start hname h

/-- What is kept whenever one of the fixtures is touched is kept. -/
theorem keeps {P : Disk → Prop} (h : s.Develops home names d d') (hd : P d)
    (hP : ∀ name ∈ names, ∀ d d', s.Touches home name (fun _ => True) d d' → P d → P d') :
    P d' := by
  induction h with
  | start => exact hd
  | touch _ hname htouches ih => exact hP _ hname _ _ htouches ih

theorem sound (h : s.Develops home names d d') (hd : d.Sound) : d'.Sound :=
  h.keeps hd fun _ _ _ _ htouches _ => htouches.sound

theorem home_eq (h : s.Develops home names d d') : d'.workingDirectory = d.workingDirectory :=
  @keeps _ _ _ _ _ (fun d' => d'.workingDirectory = d.workingDirectory) h rfl
    fun _ _ _ _ htouches heq => htouches.home.trans heq

theorem find {path : Path} {key : Key} {entry : Entry} (h : s.Develops home names d d')
    (hhome : d.workingDirectory = home) (havoids : ∀ name ∈ names, s.Avoids home name path)
    (hfind : d.find path = .ok (key, entry)) : d'.find path = .ok (key, entry) := by
  induction h with
  | start => exact hfind
  | touch h hname htouches ih =>
    exact htouches.find (h.home_eq.trans hhome) (havoids _ hname) ih

theorem readFile {path : Path} {bytes : ByteArray} (h : s.Develops home names d d')
    (hhome : d.workingDirectory = home) (havoids : ∀ name ∈ names, s.Avoids home name path)
    (hread : d.readFile path = .ok bytes) : d'.readFile path = .ok bytes := by
  obtain ⟨key, hfind⟩ := readFile_eq_ok_iff.1 hread
  exact readFile_eq_ok_iff.2 ⟨key, h.find hhome havoids hfind⟩

end Develops
end Store

namespace Work

variable {α : Type} {R : System} {I : Disk → Prop} {d : Disk} {work : Work α}

theorem holds_outcome {Q : Attempt (Attempt α) → Disk → Prop}
    (h : Holds R I work.run d fun result d' => Q (.ok result) d') :
    Holds R I (Work.outcome work : Work (Attempt α)).run d Q :=
  Action.holds_bind.2 (h.mono (fun _ h => h) fun _ _ h => h)

theorem ends_outcome {result : Attempt α} {d' : Disk}
    (h : Ends R (Work.outcome work : Work (Attempt α)).run d (.ok result) d') :
    Ends R work.run d result d' := by
  obtain ⟨found, d₁, hwork, hdone⟩ := Action.ends_bind.1 h
  obtain ⟨hresult, rfl⟩ := ends_pure.1 hdone
  cases hresult
  exact hwork

end Work

namespace Catalog

open Store

/-! ## Batches -/

section Batches

variable {R : System} {I : Disk → Prop} {source : String → Work Table} {policy : Policy}
variable {act : Planned → Prepared → Work Fixture.Report} {d : Disk}

/-- What neither the preparation of a dataset changes nor anything that is done with a fixture is
not changed by a batch. -/
theorem holds_runAll {planned : List Planned} {last : Option (Nat × Attempt Prepared)}
    (hprepare : ∀ p ∈ planned, ∀ d, I d →
      Holds R I (prepare source p.dataset).run d fun _ d' => I d')
    (hact : ∀ p ∈ planned, ∀ ready d, I d → Holds R I (act p ready).run d fun _ d' => I d')
    (hd : I d) : Holds R I (runAll source policy act last planned).run d fun _ d' => I d' := by
  induction planned generalizing last d with
  | nil => exact hd
  | cons p rest ih =>
    obtain ⟨hprepare, hprepareRest⟩ := List.forall_mem_cons.1 hprepare
    obtain ⟨hact, hactRest⟩ := List.forall_mem_cons.1 hact
    have hprepared : Holds R I (prepared source last p : Work _).run d fun _ d' => I d' := by
      rcases last with _ | ⟨position, result⟩
      · exact Work.holds_outcome (hprepare d hd)
      · rw [prepared]
        split
        · exact hd
        · exact Work.holds_outcome (hprepare d hd)
    refine Work.holds_bind (hprepared.mono (fun _ h => h) ?_)
    rintro (failure | result) d₁ hd₁
    · exact hd₁
    have hone : Holds R I (runOne policy act p result).run d₁ fun _ d' => I d' := by
      cases result with
      | error failure => exact hd₁
      | ok ready =>
        refine Work.holds_bind (Work.holds_outcome ((hact ready d₁ hd₁).mono (fun _ h => h) ?_))
        exact fun _ _ h => h
    refine Work.holds_bind (hone.mono (fun _ h => h) ?_)
    rintro (failure | outcome) d₂ hd₂
    · exact hd₂
    refine Work.holds_bind ((ih hprepareRest hactRest hd₂).mono (fun _ h => h) ?_)
    rintro (failure | outcomes) d₃ hd₃
    · exact hd₃
    · exact hd₃

end Batches

/-! ## Builds -/

variable {c : Catalog} {s : Store} {home : Key} {d d' : Disk} {p : Planned} {planned : List Planned}

/-- A planned fixture is built in the store without changing anything else. -/
theorem Planned.holds_build (hready : Fixture.Ready s home p.name) (hd : d.Sound)
    (hhome : d.workingDirectory = home) (prepared : Prepared) :
    Holds Happens (s.Touches home p.name (fun _ => True) d) (p.build s prepared).run d
      fun _ d' => s.Touches home p.name (fun _ => True) d d' := by
  refine Work.holds_bind (Work.holds_ofAttempt ?_)
  cases Model.build p.choice.architecture p.dataset.task prepared.encodings p.choice.hiddenUnits
      p.choice.seed with
  | error failure => exact .refl hd
  | ok model =>
    replace hready : Fixture.Ready s home p.spec.name := hready
    exact (Fixture.holds_build (fun _ _ _ _ h => h) Model.lawful hready hd hhome).mono
      (fun _ h => h.touches) fun _ _ h => h.1.touches

/-- A fixture that no model is ever built for. -/
def Planned.IsHopeless (p : Planned) : Prop :=
  ∀ encodings model, Model.build p.choice.architecture p.dataset.task encodings p.choice.hiddenUnits
    p.choice.seed ≠ .ok model

/-- Where there is no model, nothing is done. -/
theorem Planned.IsHopeless.holds_build {R : System} {I : Disk → Prop} (h : p.IsHopeless) (hd : I d)
    (prepared : Prepared) : Holds R I (p.build s prepared).run d fun _ d' => I d' := by
  refine Work.holds_bind (Work.holds_ofAttempt ?_)
  cases hmodel : Model.build p.choice.architecture p.dataset.task prepared.encodings
      p.choice.hiddenUnits p.choice.seed with
  | error failure => exact hd
  | ok model => exact absurd hmodel (h prepared.encodings model)

/-- While fixtures are built one after the other, the disk develops under the names of those that
are not hopeless. -/
theorem holds_runAll_develops {names : List String} (hnames : ∀ p ∈ planned,
      p.name ∈ names ∧ Fixture.Ready s home p.name ∨ p.IsHopeless) (hd : d.Sound)
    (hhome : d.workingDirectory = home) {source : String → Work Table}
    (hsource : ∀ file, (source file).Looks) (policy : Policy)
    (last : Option (Nat × Attempt Prepared)) :
    Holds Happens (s.Develops home names d)
      (runAll source policy (Planned.build s) last planned).run d
      fun _ d' => s.Develops home names d d' := by
  refine holds_runAll (fun p _ d₁ h₁ => ?_) (fun p hp prepared d₁ h₁ => ?_) .start
  · exact ((looks_prepare hsource p.dataset).still d₁).mono (fun _ h => h ▸ h₁) fun _ _ h => h ▸ h₁
  · rcases hnames p hp with ⟨hname, hready⟩ | hhopeless
    · exact (p.holds_build hready (h₁.sound hd) (h₁.home_eq.trans hhome) prepared).mono
        (fun _ h => .touch h₁ hname h) fun _ _ h => .touch h₁ hname h
    · exact hhopeless.holds_build h₁ prepared

theorem holds_runAll_build (hready : ∀ p ∈ planned, Fixture.Ready s home p.name) (hd : d.Sound)
    (hhome : d.workingDirectory = home) {source : String → Work Table}
    (hsource : ∀ file, (source file).Looks) (policy : Policy)
    (last : Option (Nat × Attempt Prepared)) :
    Holds Happens (s.Develops home (planned.map (·.name)) d)
      (runAll source policy (Planned.build s) last planned).run d
      fun _ d' => s.Develops home (planned.map (·.name)) d d' :=
  holds_runAll_develops (fun p hp => .inl ⟨List.mem_map_of_mem hp, hready p hp⟩) hd hhome hsource
    policy last

/-- What is needed of the directories of a catalog so that fixtures can be built in them: the path
of neither leads through what is kept of a fixture. -/
structure Accommodates (c : Catalog) (home : Key) (planned : List Planned) : Prop where
  absolute : c.artifactDirectory.isAbsolute = true
  sheets : ∀ p ∈ planned, c.store.Avoids home p.name c.sheetDirectory
  artifacts : ∀ p ∈ planned, c.store.Avoids home p.name c.artifactDirectory

theorem Accommodates.ready (h : c.Accommodates home planned) (hp : p ∈ planned)
    (hname : IsFixtureName p.name) : Fixture.Ready c.store home p.name where
  plain := hname.isPlain
  apart part k hk := by
    rcases hk with hk | hk
    · exact h.sheets p hp k hk part (Part.mem_all part)
    · exact h.artifacts p hp k hk part (Part.mem_all part)
  absolute := h.absolute

theorem isFixtureName_of_select {selection : List String}
    (h : select c.plan selection = .ok planned) (hp : p ∈ planned) : IsFixtureName p.name := by
  rw [(mem_plan ((select_sublist h).subset hp)).2]
  exact isFixtureName_fixtureName _ _

/-! ## Files of datasets -/

/-- Wherever a build of selected fixtures is cut off, and whichever requests fail, the file of every
dataset of the catalog is as it was, unless its path leads through what is kept of one of the
fixtures. -/
theorem build_keeps_datasets {selection : List String}
    (hselect : select c.plan selection = .ok planned) (hd : d.Sound)
    (haccommodates : c.Accommodates d.workingDirectory planned) (policy : Policy) :
    ∀ dataset ∈ c.datasets,
      (∀ p ∈ planned, c.store.Avoids d.workingDirectory p.name
        (c.sheetDirectory.entry dataset.file)) →
      ∀ bytes, d.readFile (c.sheetDirectory.entry dataset.file) = .ok bytes →
      ∀ d', Visits Happens (buildAll c.source c.store policy planned).run d d' →
        d'.readFile (c.sheetDirectory.entry dataset.file) = .ok bytes := by
  intro dataset _ havoids bytes hread d' hvisits
  have hready : ∀ p ∈ planned, Fixture.Ready c.store d.workingDirectory p.name := fun p hp =>
    haccommodates.ready hp (isFixtureName_of_select hselect hp)
  have hsource (file : String) : (c.source file).Looks := Table.looks_load _
  have hdevelops : c.store.Develops d.workingDirectory (planned.map (·.name)) d d' :=
    (holds_runAll_build hready hd rfl hsource policy none).visits (fun _ _ h => h) hvisits
  exact hdevelops.readFile rfl (List.forall_mem_map.2 havoids) hread

/-- One dataset in the given file, with one linear model of it. -/
def wines (file : String) : Catalog :=
  ⟨⟨"/c"⟩, ⟨"/m"⟩, [⟨"Wine", file, ⟨["x"], [], "y", .numeric⟩, 0, [linearChoice]⟩]⟩

/-- A disk with one dataset of one row. -/
def cellar (file : String) : Disk :=
  (({} : Disk).put ["c"] .directory).put ["c", file] (.file "x,y\n1.0,2.0\n".toUTF8)

theorem sound_cellar {file : String} (hfile : Path.IsPlain file) : (cellar file).Sound := by
  have hroot : (({} : Disk).put ([] ++ ["c"]) .directory).Sound :=
    Fixture.sound_empty.put (by decide) rfl fun _ => rfl
  have hdirectory : (({} : Disk).put ([] ++ ["c"]) .directory).get? ["c"] = some .directory := rfl
  refine hroot.put hfile hdirectory fun h => ?_
  rw [get?_put (by decide), if_neg (by simp)] at h
  cases h

/-- A dataset is there after a build if its file has a name of its own. -/
theorem build_keeps_datasets_once : ∃ planned bytes,
    select (wines "wine.csv").plan [] = .ok planned ∧
    (cellar "wine.csv").readFile ((wines "wine.csv").sheetDirectory.entry "wine.csv") = .ok bytes ∧
    ((cellar "wine.csv").run (buildAll (wines "wine.csv").source (wines "wine.csv").store .keepGoing
      planned).run).2.readFile ((wines "wine.csv").sheetDirectory.entry "wine.csv")
        = .ok bytes := by
  have hselect : select (wines "wine.csv").plan [] = .ok (wines "wine.csv").plan := rfl
  have hread : (cellar "wine.csv").readFile ((wines "wine.csv").sheetDirectory.entry "wine.csv")
      = .ok "x,y\n1.0,2.0\n".toUTF8 := by decide +kernel
  have hdirectories : (wines "wine.csv").Accommodates (cellar "wine.csv").workingDirectory
      (wines "wine.csv").plan := ⟨rfl, by decide +kernel, by decide +kernel⟩
  have hkeeps := build_keeps_datasets hselect (sound_cellar (by decide)) hdirectories .keepGoing _
    List.mem_cons_self (by decide +kernel) _ hread _ (visits_run Fixture.happens_answer _ _)
  exact ⟨_, _, hselect, hread, hkeeps⟩

/-- A valid catalog may call a dataset like the predictions of a fixture, and a build of the fixture
takes the place of the dataset. -/
theorem build_replaces_dataset :
    let c := wines "LinearRegressionWine.csv"
    c.validate = .ok () ∧ c.sheetDirectory.isAbsolute = true ∧
      c.artifactDirectory.isAbsolute = true ∧
    ∃ dataset ∈ c.datasets, ∃ d bytes d', d.Sound ∧
      d.readFile (c.sheetDirectory.entry dataset.file) = .ok bytes ∧
      Visits Happens (buildAll c.source c.store .keepGoing c.plan).run d d' ∧
      d'.readFile (c.sheetDirectory.entry dataset.file) ≠ .ok bytes := by
  have hread : (cellar "LinearRegressionWine.csv").readFile
      ((⟨"/c"⟩ : Path).entry "LinearRegressionWine.csv") = .ok "x,y\n1.0,2.0\n".toUTF8 := by
    decide +kernel
  refine ⟨rfl, rfl, rfl, _, List.mem_cons_self, cellar "LinearRegressionWine.csv", _, _,
    sound_cellar (by decide), hread, visits_run Fixture.happens_answer _ _, ?_⟩
  decide +kernel

end Catalog
end Exemplar
