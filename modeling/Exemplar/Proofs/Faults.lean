/-
A disk on which every request can fail.

A request is carried out as a whole or refused, and a refusal changes nothing;
only a write may stop half-way and leave a file with other bytes.  A refusal
never claims that there is nothing where there may be something, and what is told
of the disk is true.  Names of temporary entries, the time and the number of the
process are whatever the system chooses.
-/
import Exemplar.Proofs.Runs
import Exemplar.Proofs.TemporaryNames

namespace Exemplar

/-- The reply tells that the request was refused. -/
def Refused {β : Type} (reply : Except FileError β) : Prop :=
  ∃ error, error ≠ .notFound ∧ reply = .error error

namespace Disk

/-- A temporary entry is made under a name of the system's choice. -/
def MakesNew (d : Disk) (directory : Path) (beginning ending : String) (entry : Entry)
    (reply : Except FileError Path) (d' : Disk) : Prop :=
  ∃ middle key serial, Path.IsPlain (beginning ++ middle ++ ending) ∧
    d.resolve (d.temporaryPath directory (beginning ++ middle ++ ending)) = .ok key ∧
    d.get? key = none ∧
    reply = .ok (d.temporaryPath directory (beginning ++ middle ++ ending)) ∧
    d' = { d.put key entry with serial }

/-- What may come of a request that is not answered as the disk would answer it. -/
def Fails : (r : Request) → Disk → r.Reply → Disk → Prop
  | .kindOf _, _, _, _ => False
  | .makeDirectory _, d, reply, d' => d' = d ∧ Refused reply
  | .list _, d, reply, d' => d' = d ∧ Refused reply
  | .walk _, d, reply, d' => d' = d ∧ Refused reply
  | .locate _, d, reply, d' => d' = d ∧ Refused reply
  | .read _, d, reply, d' => d' = d ∧ ∃ error, reply = .error error
  | .write path _, d, reply, d' =>
    Refused reply ∧ (d' = d ∨ ∃ part, d.write path part = .ok d')
  | .newFile directory beginning ending, d, reply, d' =>
    (d' = d ∧ Refused reply) ∨ d.MakesNew directory beginning ending (.file .empty) reply d'
  | .newDirectory directory beginning, d, reply, d' =>
    (d' = d ∧ Refused reply) ∨ d.MakesNew directory beginning "" .directory reply d'
  | .removeFile _, d, reply, d' => d' = d ∧ Refused reply
  | .removeDirectory _, d, reply, d' => d' = d ∧ Refused reply
  | .rename .., d, reply, d' => d' = d ∧ Refused reply
  | .clock, d, _, d' => d' = d
  | .processNumber, d, _, d' => d' = d

/-- The disk as a system on which every request can fail. -/
def Happens : System := fun r d reply d' => Action.Answered r d reply d' ∨ Fails r d reply d'

variable {d d' : Disk} {path : Path} {I : Disk → Prop}

/-- What holds where every request can fail holds of the run on which none does. -/
theorem happens_run {α : Type} {program : Action α} {Q : α → Disk → Prop}
    (h : Action.Holds Happens I program d Q) : Q (d.run program).1 (d.run program).2 :=
  Action.answered_holds (h.restrict fun _ _ _ _ hr => .inl hr)

/-! ## What is told -/

theorem happens_kindOf {reply : Option Kind} (h : Happens (.kindOf path) d reply d') :
    d' = d ∧ reply = (d.find path).toOption.map fun found => found.2.kind := by
  rcases h with ⟨rfl, rfl⟩ | h
  · exact ⟨rfl, rfl⟩
  · exact h.elim

/-- A reply that tells something of the disk is true. -/
theorem happens_locate {reply : Except FileError Path} (h : Happens (.locate path) d reply d') :
    d' = d ∧ ∀ top, reply = .ok top → d.locate path = .ok top := by
  rcases h with ⟨rfl, rfl⟩ | ⟨rfl, error, -, rfl⟩
  · exact ⟨rfl, fun top h => h⟩
  · exact ⟨rfl, fun top h => by cases h⟩

theorem happens_list {reply : Except FileError (List String)}
    (h : Happens (.list path) d reply d') :
    d' = d ∧ ∀ names, reply = .ok names → (d.answer (.list path)).1 = .ok names := by
  rcases h with ⟨rfl, rfl⟩ | ⟨rfl, error, -, rfl⟩
  · exact ⟨rfl, fun top h => h⟩
  · exact ⟨rfl, fun top h => by cases h⟩

theorem happens_walk {reply : Except FileError (List (List String × Kind))}
    (h : Happens (.walk path) d reply d') :
    d' = d ∧ ∀ below, reply = .ok below → (d.answer (.walk path)).1 = .ok below := by
  rcases h with ⟨rfl, rfl⟩ | ⟨rfl, error, -, rfl⟩
  · exact ⟨rfl, fun top h => h⟩
  · exact ⟨rfl, fun top h => by cases h⟩

theorem happens_read {reply : Except ReadError ByteArray} (h : Happens (.read path) d reply d') :
    d' = d ∧ ∀ bytes, reply = .ok bytes → d.readFile path = .ok bytes := by
  rcases h with ⟨rfl, rfl⟩ | ⟨rfl, error, rfl⟩
  · exact ⟨rfl, fun top h => h⟩
  · exact ⟨rfl, fun top h => by cases h⟩

theorem happens_processNumber {reply : Nat} (h : Happens .processNumber d reply d') : d' = d := by
  rcases h with ⟨-, rfl⟩ | h
  · rfl
  · exact h

theorem happens_clock {reply : Nat} (h : Happens .clock d reply d') : d' = d := by
  rcases h with ⟨-, rfl⟩ | h
  · rfl
  · exact h

/-! ## What is changed -/

/-- A change is made as a whole or refused.  That there is nothing to change is told only where it
is so. -/
def Settles (d : Disk) (result : Except FileError Disk) (reply : Except FileError Unit)
    (d' : Disk) : Prop :=
  (reply = .ok () ∧ result = .ok d') ∨
    d' = d ∧ ∃ error, reply = .error error ∧ (error = .notFound → result = .error .notFound)

theorem settles_commit (d : Disk) (result : Except FileError Disk) :
    d.Settles result (d.commit result).1 (d.commit result).2 := by
  cases result with
  | ok next => exact .inl ⟨rfl, rfl⟩
  | error error => exact .inr ⟨rfl, error, rfl, fun h => h ▸ rfl⟩

theorem settles_refused {result : Except FileError Disk} {reply : Except FileError Unit}
    (h : d' = d ∧ Refused reply) : d.Settles result reply d' := by
  obtain ⟨rfl, error, hne, rfl⟩ := h
  exact .inr ⟨rfl, error, rfl, fun h => absurd h hne⟩

theorem happens_makeDirectory {reply : Except FileError Unit}
    (h : Happens (.makeDirectory path) d reply d') :
    d.Settles (d.makeDirectory path) reply d' := by
  rcases h with ⟨rfl, rfl⟩ | h
  · exact settles_commit d _
  · exact settles_refused h

theorem happens_removeFile {reply : Except FileError Unit}
    (h : Happens (.removeFile path) d reply d') : d.Settles (d.removeFile path) reply d' := by
  rcases h with ⟨rfl, rfl⟩ | h
  · exact settles_commit d _
  · exact settles_refused h

theorem happens_removeDirectory {reply : Except FileError Unit}
    (h : Happens (.removeDirectory path) d reply d') :
    d.Settles (d.removeDirectory path) reply d' := by
  rcases h with ⟨rfl, rfl⟩ | h
  · exact settles_commit d _
  · exact settles_refused h

theorem happens_rename {source target : Path} {reply : Except FileError Unit}
    (h : Happens (.rename source target) d reply d') :
    d.Settles (d.rename source target) reply d' := by
  rcases h with ⟨rfl, rfl⟩ | h
  · exact settles_commit d _
  · exact settles_refused h

/-- A write that is not refused is complete; one that is may have left anything in the file. -/
theorem happens_write {bytes : ByteArray} {reply : Except FileError Unit}
    (h : Happens (.write path bytes) d reply d') :
    (reply = .ok () ∧ d.write path bytes = .ok d') ∨
      (∃ error, reply = .error error) ∧ (d' = d ∨ ∃ part, d.write path part = .ok d') := by
  rcases h with ⟨rfl, rfl⟩ | ⟨⟨error, -, rfl⟩, h⟩
  · rcases settles_commit d (d.write path bytes) with h | ⟨h, error, herror, -⟩
    · exact .inl h
    · exact .inr ⟨⟨error, herror⟩, .inl h⟩
  · exact .inr ⟨⟨error, rfl⟩, h⟩

theorem happens_newFile {directory : Path} {beginning ending : String}
    {reply : Except FileError Path} (hbeginning : '/' ∉ beginning.toList)
    (hending : '/' ∉ ending.toList) (h : Happens (.newFile directory beginning ending) d reply d') :
    (d' = d ∧ ∃ error, reply = .error error) ∨
      d.MakesNew directory beginning ending (.file .empty) reply d' := by
  rcases h with ⟨rfl, rfl⟩ | ⟨rfl, error, -, rfl⟩ | h
  · rcases newEntry_cases d directory (.file .empty) hbeginning hending with
      ⟨error, herror⟩ | ⟨serial, key, hkey, hnone, hnew⟩
    · simp only [answer, herror]
      exact .inl ⟨trivial, error, rfl⟩
    · simp only [answer, hnew]
      exact .inr ⟨_, key, _, isPlain_temporaryName hbeginning hending serial, hkey, hnone, rfl,
        rfl⟩
  · exact .inl ⟨rfl, error, rfl⟩
  · exact .inr h

theorem happens_newDirectory {directory : Path} {beginning : String}
    {reply : Except FileError Path} (hbeginning : '/' ∉ beginning.toList)
    (h : Happens (.newDirectory directory beginning) d reply d') :
    (d' = d ∧ ∃ error, reply = .error error) ∨
      d.MakesNew directory beginning "" .directory reply d' := by
  have hending : '/' ∉ "".toList := by simp
  rcases h with ⟨rfl, rfl⟩ | ⟨rfl, error, -, rfl⟩ | h
  · rcases newEntry_cases d directory .directory hbeginning hending with
      ⟨error, herror⟩ | ⟨serial, key, hkey, hnone, hnew⟩
    · simp only [answer, herror]
      exact .inl ⟨trivial, error, rfl⟩
    · simp only [answer, hnew]
      exact .inr ⟨_, key, _, isPlain_temporaryName hbeginning hending serial, hkey, hnone, rfl,
        rfl⟩
  · exact .inl ⟨rfl, error, rfl⟩
  · exact .inr h

/-! ## Settled changes -/

section Settles

variable {result : Except FileError Disk} {reply : Except FileError Unit}
variable {change grow : Key → Prop}

theorem Settles.confined (hd : d.Sound) (h : d.Settles result reply d')
    (hresult : ∀ d', result = .ok d' → d.Confined change grow d') :
    d.Confined change grow d' := by
  rcases h with ⟨-, hok⟩ | ⟨rfl, -⟩
  · exact hresult _ hok
  · exact .refl hd

theorem Settles.ok (h : d.Settles result reply d') (hreply : reply = .ok ()) :
    result = .ok d' := by
  rcases h with ⟨-, hok⟩ | ⟨-, error, herror, -⟩
  · exact hok
  · rw [herror] at hreply
    cases hreply

theorem Settles.notFound (h : d.Settles result reply d') (hreply : reply = .error .notFound) :
    d' = d ∧ result = .error .notFound := by
  rcases h with ⟨hok, -⟩ | ⟨rfl, error, herror, hnone⟩
  · rw [hok] at hreply
    cases hreply
  · rw [herror] at hreply
    exact ⟨rfl, hnone (Except.error.inj hreply)⟩

end Settles

/-! ## New entries -/

section MakesNew

variable {directory : Path} {beginning ending : String} {entry : Entry}
variable {reply : Except FileError Path}

theorem sound_serial (hd : d.Sound) (serial : Nat) : ({ d with serial := serial } : Disk).Sound :=
  ⟨hd.distinct, hd.ne_root, hd.plain, hd.parent, hd.home⟩

/-- What is made under a temporary name stands in the directory, where nothing was before. -/
theorem MakesNew.spec (hd : d.Sound) (h : d.MakesNew directory beginning ending entry reply d') :
    ∃ middle, Path.IsPlain (beginning ++ middle ++ ending) ∧
      reply = .ok ((d.absolute directory).entry (beginning ++ middle ++ ending)) ∧
      d.AreDirectories ((d.absolute directory).trail d.workingDirectory) ∧
      d.get? ((d.absolute directory).key d.workingDirectory ++ [beginning ++ middle ++ ending])
        = none ∧
      d.Confined (· = (d.absolute directory).key d.workingDirectory
        ++ [beginning ++ middle ++ ending]) Nowhere d' ∧
      d'.get? ((d.absolute directory).key d.workingDirectory ++ [beginning ++ middle ++ ending])
        = some entry := by
  obtain ⟨middle, key, serial, hplain, hkey, hnone, rfl, rfl⟩ := h
  obtain ⟨rfl, htrail⟩ := resolve_ok hkey
  rw [temporaryPath, parentTrail_entry hplain] at htrail
  rw [temporaryPath, Path.key_entry hplain] at hnone ⊢
  have hdirectory := htrail _ (Path.key_mem_trail _ _)
  have hsound : (d.put _ entry).Sound := hd.put hplain hdirectory (by rw [hnone]; simp)
  refine ⟨middle, hplain, rfl, htrail, hnone, ⟨sound_serial hsound serial,
    put_workingDirectory .., fun k hk => .inl ?_⟩, ?_⟩
  · exact (get?_put (by simp) k).trans (if_neg hk)
  · exact (get?_put (by simp) _).trans (if_pos rfl)

/-- What is new was not there before, so it is not on the way. -/
theorem MakesNew.open_trail (hd : d.Sound)
    (h : d.MakesNew directory beginning ending entry reply d') :
    d'.AreDirectories ((d.absolute directory).trail d.workingDirectory) := by
  obtain ⟨middle, -, -, hopen, hnone, hconfined, -⟩ := h.spec hd
  refine hconfined.areDirectories (fun k hk heq => ?_) hopen
  rw [← heq, hopen k hk] at hnone
  cases hnone

end MakesNew

end Disk
end Exemplar
