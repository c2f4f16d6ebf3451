import TupleSpace.Proofs.RegistryCalls

/-!
# The registry is an ordered table

The registry keeps the descriptors of each service by themselves. Seen from outside it is one table
of entries in the order of their registration: a registration adds an entry at the end, a deletion
takes one out, and a look-up goes through the table from the start. So the services have nothing
to do with each other, and a call that is refused might as well not have been made.
-/

namespace TupleSpace

structure Registration where
  service : String
  qualifier : String
  address : String
deriving DecidableEq, Repr

def Registration.descriptor (entry : Registration) : Descriptor := ⟨entry.qualifier, entry.address⟩

namespace OrderedTable

def Has (table : List Registration) (service address : String) : Prop :=
  ∃ entry ∈ table, entry.service = service ∧ entry.address = address

/-- What a table answers to a call, and the table afterwards. -/
inductive Answers (table : List Registration) :
    RegistryCall → RegistryAnswer → List Registration → Prop
  | unnamed {service address : String} :
      Answers table (.register service "" address) (.refused (.invalidEntry .emptyQualifier)) table
  | flawed {service qualifier address : String} {fault : EntryFault} (named : qualifier ≠ "")
      (flaw : Address.Flaw address fault) :
      Answers table (.register service qualifier address) (.refused (.invalidEntry fault)) table
  | repeated {service qualifier address : String} {endpoint : Address} (named : qualifier ≠ "")
      (stands : Address.StandsFor address endpoint) (there : Has table service address) :
      Answers table (.register service qualifier address)
        (.refused (.alreadyRegistered service qualifier address)) table
  | registered {service qualifier address : String} {endpoint : Address} (named : qualifier ≠ "")
      (stands : Address.StandsFor address endpoint) (fresh : ¬ Has table service address) :
      Answers table (.register service qualifier address) .done
        (table ++ [⟨service, qualifier, address⟩])
  | misdirected {service address : String} {fault : EntryFault}
      (flaw : Address.Flaw address fault) :
      Answers table (.delete service address) (.refused (.invalidEntry fault)) table
  | missing {service address : String} {endpoint : Address}
      (stands : Address.StandsFor address endpoint) (absent : ¬ Has table service address) :
      Answers table (.delete service address) (.refused (.notRegistered service address)) table
  | deleted {service qualifier address : String} {endpoint : Address}
      {before behind : List Registration}
      (stands : Address.StandsFor address endpoint)
      (split : table = before ++ ⟨service, qualifier, address⟩ :: behind) :
      Answers table (.delete service address) .done (before ++ behind)
  | found {service : String} {qualifier? : Option String} :
      Answers table (.lookup service qualifier?)
        (.found ((table.filter fun entry =>
          entry.service = service ∧ ∀ qualifier ∈ qualifier?, entry.qualifier = qualifier).map
            Registration.descriptor)) table

inductive AnswersAll : List Registration → List RegistryCall → List RegistryAnswer → Prop
  | nil {table : List Registration} : AnswersAll table [] []
  | cons {table next : List Registration} {call : RegistryCall} {answer : RegistryAnswer}
      {calls : List RegistryCall} {answers : List RegistryAnswer}
      (first : Answers table call answer next) (later : AnswersAll next calls answers) :
      AnswersAll table (call :: calls) (answer :: answers)

theorem exists_answer (table : List Registration) (call : RegistryCall) :
    ∃ answer next, Answers table call answer next := by
  cases call with
  | register service qualifier address =>
      by_cases named : qualifier = ""
      · subst named
        exact ⟨_, _, .unnamed⟩
      · rcases Address.stands_or_flawed address with ⟨endpoint, stands⟩ | ⟨fault, flaw⟩
        · by_cases there : Has table service address
          · exact ⟨_, _, .repeated named stands there⟩
          · exact ⟨_, _, .registered named stands there⟩
        · exact ⟨_, _, .flawed named flaw⟩
  | delete service address =>
      rcases Address.stands_or_flawed address with ⟨endpoint, stands⟩ | ⟨fault, flaw⟩
      · by_cases there : Has table service address
        · obtain ⟨entry, member, rfl, rfl⟩ := there
          obtain ⟨before, behind, split⟩ := List.append_of_mem member
          exact ⟨_, _, .deleted stands split⟩
        · exact ⟨_, _, .missing stands there⟩
      · exact ⟨_, _, .misdirected flaw⟩
  | lookup service qualifier? => exact ⟨_, _, .found⟩

/-- The registry keeps the entries of the table service by service. -/
def Mirrors (registry : Registry) (table : List Registration) : Prop :=
  ∀ service, registry.descriptors service =
    (table.filter (·.service = service)).map Registration.descriptor

section

variable {registry : Registry} {table next : List Registration} {service address : String}
  {call : RegistryCall} {answer : RegistryAnswer}

theorem Mirrors.lists_iff (mirrors : Mirrors registry table) :
    registry.Lists service address ↔ Has table service address := by
  rw [Registry.Lists, mirrors service]
  simp only [List.mem_map, List.mem_filter, decide_eq_true_eq]
  constructor
  · rintro ⟨_, ⟨entry, ⟨member, here⟩, rfl⟩, same⟩
    exact ⟨entry, member, here, same⟩
  · rintro ⟨entry, member, here, same⟩
    exact ⟨_, ⟨entry, ⟨member, here⟩, rfl⟩, same⟩

theorem Mirrors.registered (mirrors : Mirrors registry table) (qualifier : String) :
    Mirrors (registry.update service (registry.descriptors service ++ [⟨qualifier, address⟩]))
      (table ++ [⟨service, qualifier, address⟩]) := by
  intro other
  rw [Registry.descriptors_update, List.filter_append, List.map_append, ← mirrors other]
  by_cases same : other = service
  · subst same
    simp [Registration.descriptor]
  · have apart : ¬ service = other := fun equal => same equal.symm
    simp [same, apart]

/-- Only one entry of a service has a given address, so the first that is found is the one. -/
theorem Mirrors.deleted {qualifier : String} {before behind : List Registration}
    (sound : registry.Sound)
    (mirrors : Mirrors registry (before ++ ⟨service, qualifier, address⟩ :: behind)) :
    Mirrors (registry.update service
        ((registry.descriptors service).eraseP (fun entry => entry.address == address)))
      (before ++ behind) := by
  intro other
  rw [Registry.descriptors_update]
  by_cases same : other = service
  · subst same
    have whole := mirrors other
    have distinct := sound.distinct other
    rw [List.filter_append, List.filter_cons_of_pos (by simp), List.map_append,
      List.map_cons] at whole
    rw [whole, List.map_append, List.map_cons, List.nodup_append] at distinct
    rw [if_pos rfl, whole, List.eraseP_append_right, List.eraseP_cons_of_pos, List.filter_append,
      List.map_append]
    · simp [Registration.descriptor]
    · intro entry member same
      have earlier := List.mem_map_of_mem (f := Descriptor.address) member
      exact distinct.2.2 _ earlier _ List.mem_cons_self (eq_of_beq same)
  · have apart : ¬ service = other := fun equal => same equal.symm
    rw [if_neg same, mirrors other]
    simp [apart]

theorem Answers.agrees (sound : registry.Sound) (mirrors : Mirrors registry table)
    (answers : Answers table call answer next) :
    (registry.call call).1 = answer ∧ Mirrors (registry.call call).2 next := by
  cases answers with
  | unnamed => exact ⟨rfl, mirrors⟩
  | flawed named flaw =>
      rw [Registry.call, Registry.register_flawed named flaw]
      exact ⟨rfl, mirrors⟩
  | repeated named stands there =>
      rw [Registry.call, Registry.register_listed named stands (mirrors.lists_iff.mpr there)]
      exact ⟨rfl, mirrors⟩
  | registered named stands fresh =>
      rw [Registry.call, Registry.register_fresh named stands (mt mirrors.lists_iff.mp fresh)]
      exact ⟨rfl, mirrors.registered _⟩
  | misdirected flaw =>
      rw [Registry.call, Registry.delete_flawed flaw]
      exact ⟨rfl, mirrors⟩
  | missing stands absent =>
      rw [Registry.call, Registry.delete_absent stands (mt mirrors.lists_iff.mp absent)]
      exact ⟨rfl, mirrors⟩
  | deleted stands split =>
      subst split
      rw [Registry.call, Registry.delete_listed stands
        (mirrors.lists_iff.mpr ⟨_, List.mem_append_cons_self, rfl, rfl⟩)]
      exact ⟨rfl, mirrors.deleted sound⟩
  | @found service qualifier? =>
      refine ⟨?_, mirrors⟩
      rw [Registry.call, Registry.lookup, mirrors, List.filter_map, List.filter_filter]
      apply congrArg RegistryAnswer.found
      apply congrArg (List.map Registration.descriptor)
      apply List.filter_congr
      intro entry _
      cases qualifier? with
      | none => simp
      | some qualifier =>
          rw [Bool.eq_iff_iff]
          simp [Registration.descriptor, and_comm]

theorem answers_iff (sound : registry.Sound) (mirrors : Mirrors registry table)
    (calls : List RegistryCall) (answers : List RegistryAnswer) :
    registry.answers calls = answers ↔ AnswersAll table calls answers := by
  induction calls generalizing registry table answers with
  | nil =>
      constructor
      · rintro rfl
        exact .nil
      · intro all
        cases all
        rfl
  | cons call later induction =>
      constructor
      · rintro rfl
        obtain ⟨answer, next, first⟩ := exists_answer table call
        obtain ⟨rfl, mirrored⟩ := first.agrees sound mirrors
        exact .cons first ((induction (sound.called call) mirrored _).mp rfl)
      · intro all
        cases all with
        | cons first others =>
            obtain ⟨rfl, mirrored⟩ := first.agrees sound mirrors
            exact congrArg _ ((induction (sound.called call) mirrored _).mpr others)

end

end OrderedTable

namespace Registry

section

variable {registry other : Registry} {call : RegistryCall} {service : String}
  {cause : NamingError}

theorem length_answers (registry : Registry) (calls : List RegistryCall) :
    (registry.answers calls).length = calls.length := by
  induction calls generalizing registry with
  | nil => rfl
  | cons call later induction => exact congrArg (· + 1) (induction _)

theorem answers_append (registry : Registry) (before behind : List RegistryCall) :
    registry.answers (before ++ behind) =
      registry.answers before ++ (registry.after before).answers behind := by
  induction before generalizing registry with
  | nil => rfl
  | cons call before induction => exact congrArg _ (induction _)

theorem settle_refused {result : Except NamingError Registry}
    (refused : (registry.settle result).1 = .refused cause) :
    (registry.settle result).2 = registry := by
  cases result with
  | ok next => cases refused
  | error cause => rfl

theorem call_refused (refused : (registry.call call).1 = .refused cause) :
    (registry.call call).2 = registry := by
  cases call with
  | register => exact settle_refused refused
  | delete => exact settle_refused refused
  | lookup => rfl

/-- Without a call that was refused, the other calls are answered the same. -/
theorem answers_without (before behind : List RegistryCall)
    (refused : (registry.answers (before ++ call :: behind))[before.length]? =
      some (.refused cause)) :
    (registry.answers (before ++ call :: behind)).eraseIdx before.length =
      registry.answers (before ++ behind) := by
  have length := length_answers registry before
  rw [answers_append, answers, List.getElem?_append_right (by omega), length,
    Nat.sub_self] at refused
  rw [answers_append, answers_append, answers, List.eraseIdx_append_of_length_le (by omega), length,
    Nat.sub_self, List.eraseIdx_cons_zero, call_refused (Option.some.inj refused)]

/-- The same happens to a service in two registries. -/
inductive Alike (registry other : Registry) (service : String) :
    Except NamingError Registry → Except NamingError Registry → Prop
  | refused (cause : NamingError) : Alike registry other service (.error cause) (.error cause)
  | updated (entries : List Descriptor) : Alike registry other service
      (.ok (registry.update service entries)) (.ok (other.update service entries))

theorem register_alike (same : registry.descriptors service = other.descriptors service)
    (qualifier address : String) :
    Alike registry other service (registry.register service qualifier address)
      (other.register service qualifier address) := by
  unfold register
  rw [same]
  split
  · exact .refused _
  · dsimp only
    split
    · exact .refused _
    · exact .updated _

theorem delete_alike (same : registry.descriptors service = other.descriptors service)
    (address : String) :
    Alike registry other service (registry.delete service address)
      (other.delete service address) := by
  unfold delete
  rw [same]
  split
  · exact .refused _
  · dsimp only
    split
    · exact .updated _
    · exact .refused _

theorem Alike.settled {left right : Except NamingError Registry}
    (alike : Alike registry other service left right)
    (same : registry.descriptors service = other.descriptors service) :
    (registry.settle left).1 = (other.settle right).1 ∧
      (registry.settle left).2.descriptors service =
        (other.settle right).2.descriptors service := by
  cases alike with
  | refused cause => exact ⟨rfl, same⟩
  | updated entries => simp [settle]

theorem call_alike (about : call.service = service)
    (same : registry.descriptors service = other.descriptors service) :
    (registry.call call).1 = (other.call call).1 ∧
      (registry.call call).2.descriptors service = (other.call call).2.descriptors service := by
  cases call with
  | register name qualifier address =>
      obtain rfl : name = service := about
      exact (register_alike same qualifier address).settled same
  | delete name address =>
      obtain rfl : name = service := about
      exact (delete_alike same address).settled same
  | lookup name qualifier? =>
      obtain rfl : name = service := about
      refine ⟨?_, same⟩
      rw [call, call, lookup, lookup, same]

theorem call_elsewhere (elsewhere : call.service ≠ service) :
    (registry.call call).2.descriptors service = registry.descriptors service := by
  cases call with
  | register name qualifier address =>
      apply settled (P := fun next => next.descriptors service = registry.descriptors service) rfl
      intro next done
      obtain ⟨_, _, rfl⟩ := of_registered done
      exact (descriptors_update _).trans (if_neg elsewhere.symm)
  | delete name address =>
      apply settled (P := fun next => next.descriptors service = registry.descriptors service) rfl
      intro next done
      rw [of_deleted done]
      exact (descriptors_update _).trans (if_neg elsewhere.symm)
  | lookup => rfl

/-- The answers about a service are those to the calls on it alone. -/
theorem answers_about (same : registry.descriptors service = other.descriptors service)
    (calls : List RegistryCall) :
    ((calls.zip (registry.answers calls)).filter (·.1.service = service)).map (·.2) =
      other.answers (calls.filter (·.service = service)) := by
  induction calls generalizing registry other with
  | nil => rfl
  | cons call later induction =>
      rw [answers, List.zip_cons_cons]
      by_cases about : call.service = service
      · obtain ⟨answer, left⟩ := call_alike about same
        rw [List.filter_cons_of_pos (by simpa using about),
          List.filter_cons_of_pos (by simpa using about), List.map_cons, answers, answer]
        exact congrArg _ (induction left)
      · rw [List.filter_cons_of_neg (by simpa using about),
          List.filter_cons_of_neg (by simpa using about)]
        exact induction ((call_elsewhere about).trans same)

end

/-- A new registry answers every sequence of calls as a table of entries in order of registration
does. The refusals may be left out, and so may the calls on other services. -/
theorem answers_as_table (calls : List RegistryCall) :
    (∀ answers, Registry.answers {} calls = answers ↔ OrderedTable.AnswersAll [] calls answers) ∧
    (∀ before call behind cause, calls = before ++ call :: behind →
      (Registry.answers {} calls)[before.length]? = some (.refused cause) →
        (Registry.answers {} calls).eraseIdx before.length =
          Registry.answers {} (before ++ behind)) ∧
    ∀ service, ((calls.zip (Registry.answers {} calls)).filter (·.1.service = service)).map (·.2) =
      Registry.answers {} (calls.filter (·.service = service)) := by
  refine ⟨?_, ?_, fun service => answers_about rfl calls⟩
  · exact OrderedTable.answers_iff sound_start (fun _ => rfl) calls
  · rintro before call behind cause rfl refused
    exact answers_without before behind refused

/-- Two services share an address, one of them refuses it a second time and, once it is deleted,
takes it again behind another one. -/
private def reused : List RegistryCall :=
  [.register "S" "A" "h:1", .register "T" "A" "h:1", .register "S" "B" "h:1",
    .register "S" "B" "g:2", .delete "S" "h:1", .delete "S" "h:1", .register "S" "A" "h:1",
    .lookup "S" none, .lookup "S" (some "A"), .lookup "T" none]

theorem answers_as_table_of_reuse :
    OrderedTable.AnswersAll [] reused
        [.done, .done, .refused (.alreadyRegistered "S" "B" "h:1"), .done, .done,
          .refused (.notRegistered "S" "h:1"), .done, .found [⟨"B", "g:2"⟩, ⟨"A", "h:1"⟩],
          .found [⟨"A", "h:1"⟩], .found [⟨"A", "h:1"⟩]] ∧
      (Registry.answers {} reused)[2]? = some (.refused (.alreadyRegistered "S" "B" "h:1")) ∧
      (Registry.answers {} reused).eraseIdx 2 =
        Registry.answers {} (reused.take 2 ++ reused.drop 3) ∧
      Registry.answers {} (reused.filter (·.service = "T")) =
        [.done, .found [⟨"A", "h:1"⟩]] := by
  have replies : Registry.answers {} reused =
      [.done, .done, .refused (.alreadyRegistered "S" "B" "h:1"), .done, .done,
        .refused (.notRegistered "S" "h:1"), .done, .found [⟨"B", "g:2"⟩, ⟨"A", "h:1"⟩],
        .found [⟨"A", "h:1"⟩], .found [⟨"A", "h:1"⟩]] := by
    decide +kernel
  have refused : (Registry.answers {} reused)[2]? =
      some (.refused (.alreadyRegistered "S" "B" "h:1")) := by
    rw [replies]
    rfl
  obtain ⟨table, without, about⟩ := answers_as_table reused
  refine ⟨(table _).mp replies, refused, without (reused.take 2) _ _ _ rfl refused, ?_⟩
  rw [← about "T", replies]
  decide

end Registry

end TupleSpace
