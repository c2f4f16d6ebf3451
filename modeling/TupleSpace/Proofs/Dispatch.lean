import TupleSpace.Network.Basic
import TupleSpace.Proofs.TakeAttempt

/-!
# Exchanges that wait for every replica

Of the parcels of such an exchange each is in transit or has been answered, and it is answered
once. So the exchange is not looked at before all of them were answered; and if none of the answers
failed, there is one from every replica that was asked. What is true of a parcel in transit, and of
a replica that has answered, is left open here.
-/

namespace TupleSpace

def transit (number : Nat) (parcels : List Parcel) : List Parcel :=
  parcels.filter (·.exchange == number)

section Transit

variable {number index : Nat} {parcels posted : List Parcel} {parcel : Parcel}

theorem mem_answered (found : parcels[index]? = some parcel) {other : Parcel}
    (inside : other ∈ parcels) : other = parcel ∨ other ∈ parcels.eraseIdx index := by
  obtain ⟨bound, same⟩ := List.getElem?_eq_some_iff.mp found
  subst same
  exact List.mem_cons.mp ((List.getElem_cons_eraseIdx_perm bound).mem_iff.mpr inside)

theorem mem_moved (found : parcels[index]? = some parcel) {moved other : Parcel} :
    other ∈ parcels.set index moved ↔ other = moved ∨ other ∈ parcels.eraseIdx index := by
  have bound := (List.getElem?_eq_some_iff.mp found).1
  rw [(List.set_perm_cons_eraseIdx bound moved).mem_iff, List.mem_cons]

theorem mem_transit :
    parcel ∈ transit number parcels ↔ parcel ∈ parcels ∧ parcel.exchange = number := by
  simp [transit]

theorem transit_own (own : parcel.exchange = number) :
    transit number (parcel :: parcels) = parcel :: transit number parcels := by
  simp [transit, own]

theorem transit_other (other : parcel.exchange ≠ number) :
    transit number (parcel :: parcels) = transit number parcels := by
  simp [transit, other]

theorem transit_apart (found : parcels[index]? = some parcel) :
    (transit number parcels).Perm (transit number (parcel :: parcels.eraseIdx index)) := by
  obtain ⟨bound, same⟩ := List.getElem?_eq_some_iff.mp found
  subst same
  exact (List.getElem_cons_eraseIdx_perm bound).symm.filter _

theorem transit_set (found : parcels[index]? = some parcel) (later : Parcel) :
    (transit number (parcels.set index later)).Perm
      (transit number (later :: parcels.eraseIdx index)) := by
  have bound := (List.getElem?_eq_some_iff.mp found).1
  exact (List.set_perm_cons_eraseIdx bound later).filter _

theorem transit_append (others : ∀ parcel ∈ posted, parcel.exchange ≠ number) :
    transit number (parcels ++ posted) = transit number parcels := by
  have nothing : posted.filter (·.exchange == number) = [] :=
    List.filter_eq_nil_iff.mpr fun parcel member => by simpa using others parcel member
  rw [transit, List.filter_append, nothing, List.append_nil, transit]

theorem transit_posted (old : ∀ parcel ∈ parcels, parcel.exchange ≠ number)
    (fresh : ∀ parcel ∈ posted, parcel.exchange = number) :
    transit number (parcels ++ posted) = posted := by
  have nothing : parcels.filter (·.exchange == number) = [] :=
    List.filter_eq_nil_iff.mpr fun parcel member => by simpa using old parcel member
  have all : posted.filter (·.exchange == number) = posted :=
    List.filter_eq_self.mpr fun parcel member => by simpa using fresh parcel member
  rw [transit, List.filter_append, nothing, all, List.nil_append]

end Transit

/-- An exchange with the targets, and its parcels in transit. -/
structure Dispatch (table : List (String × Nat)) (stands : Parcel → Prop)
    (leaves : Nat → Answer → Prop) (parcels : List Parcel) (targets : List String)
    (exchange : Exchange) : Prop where
  posted : ∀ parcel ∈ parcels, parcel.request = exchange.request ∧
    (parcel.handle.qualifier, parcel.handle.node) ∈ table ∧ stands parcel
  asked : ∀ parcel ∈ parcels, parcel.handle.qualifier ∈ targets
  answers : ∀ reply ∈ exchange.collector.responses,
    (∀ expected, exchange.expected? = some expected → reply.2.meets expected = true) ∧
    ∃ place answer, (reply.1, place) ∈ table ∧ reply.2 = exchange.request.response answer ∧
      leaves place answer
  failures : ∀ cause ∈ exchange.collector.failures, ∀ retries, cause ≠ .backoffExceeded retries
  outstanding : exchange.collector.outstanding = parcels.length
  counted : parcels.length + exchange.collector.responses.length +
    exchange.collector.failures.length = targets.length
  distinct : (parcels.map (·.handle.qualifier) ++ exchange.collector.responses.map (·.1)).Nodup
  complete : exchange.collector.failures = [] →
    (parcels.map (·.handle.qualifier) ++ exchange.collector.responses.map (·.1)).Perm targets
  waits : exchange.wait = .tasks ∨ exchange.wait = .count targets.length
  looked : exchange.next ≠ .count → parcels = []
  settled : exchange.next = .replies → exchange.collector.failures = []

theorem Exchange.outcome_cases (exchange : Exchange) (replica : String)
    (answer : Except TransportError Reply) :
    (∃ response, answer = .ok (.ok response) ∧
        exchange.outcome replica answer = .ok (replica, response) ∧
        ∀ expected, exchange.expected? = some expected → response.meets expected = true) ∨
      ∃ cause, exchange.outcome replica answer = .error cause ∧
        ∀ retries, cause ≠ .backoffExceeded retries := by
  unfold outcome
  rcases answer with cause | cause | response
  · exact Or.inr ⟨_, rfl, by simp⟩
  · exact Or.inr ⟨_, rfl, by simp⟩
  · cases exchange.expected? with
    | none => exact Or.inl ⟨response, rfl, rfl, by simp⟩
    | some expected =>
        by_cases meets : response.meets expected = true
        · exact Or.inl ⟨response, rfl, by simp [meets], by simpa using meets⟩
        · exact Or.inr ⟨response.wrong replica expected, by simp [meets], by simp [Response.wrong]⟩

namespace Dispatch

variable {table : List (String × Nat)} {stands later : Parcel → Prop}
  {leaves afterwards : Nat → Answer → Prop} {parcels others : List Parcel} {targets : List String}
  {exchange : Exchange} {parcel : Parcel}

theorem unlooked (dispatch : Dispatch table stands leaves parcels targets exchange)
    (inside : parcel ∈ parcels) : exchange.next = .count := by
  by_contra looked
  rw [dispatch.looked looked] at inside
  cases inside

theorem perm (dispatch : Dispatch table stands leaves parcels targets exchange)
    (same : parcels.Perm others) : Dispatch table stands leaves others targets exchange := by
  have names := (same.map (·.handle.qualifier)).append_right
    (exchange.collector.responses.map (·.1))
  exact
    { posted := fun parcel member => dispatch.posted parcel (same.mem_iff.mpr member)
      asked := fun parcel member => dispatch.asked parcel (same.mem_iff.mpr member)
      answers := dispatch.answers
      failures := dispatch.failures
      outstanding := dispatch.outstanding.trans same.length_eq
      counted := same.length_eq ▸ dispatch.counted
      distinct := names.nodup_iff.mp dispatch.distinct
      complete := fun none => names.symm.trans (dispatch.complete none)
      waits := dispatch.waits
      looked := fun looked => by
        have nothing := dispatch.looked looked
        subst nothing
        exact same.nil_eq.symm
      settled := dispatch.settled }

theorem mono (dispatch : Dispatch table stands leaves parcels targets exchange)
    (stand : ∀ parcel ∈ parcels, stands parcel → later parcel)
    (leave : ∀ reply ∈ exchange.collector.responses, ∀ place answer, (reply.1, place) ∈ table →
      leaves place answer → afterwards place answer) :
    Dispatch table later afterwards parcels targets exchange := by
  refine { dispatch with posted := ?_, answers := ?_ }
  · intro parcel member
    obtain ⟨request, row, stood⟩ := dispatch.posted parcel member
    exact ⟨request, row, stand parcel member stood⟩
  · intro reply member
    obtain ⟨meets, place, answer, row, same, left⟩ := dispatch.answers reply member
    exact ⟨meets, place, answer, row, same, leave reply member place answer row left⟩

/-- The parcels of one exchange go to different replicas. -/
theorem apart (dispatch : Dispatch table stands leaves (parcel :: parcels) targets exchange)
    (places : (table.map (·.2)).Nodup) {other : Parcel} (inside : other ∈ parcels) :
    other.handle.node ≠ parcel.handle.node := by
  intro same
  have here := (dispatch.posted parcel (List.mem_cons_self ..)).2.1
  have there := (dispatch.posted other (List.mem_cons_of_mem _ inside)).2.1
  rw [same] at there
  have name := congrArg Prod.fst (List.inj_on_of_nodup_map places there here rfl)
  have distinct := (List.nodup_append.mp dispatch.distinct).1
  rw [List.map_cons, List.nodup_cons] at distinct
  exact distinct.1 (List.mem_map.mpr ⟨other, inside, name⟩)

theorem replied_apart (dispatch : Dispatch table stands leaves (parcel :: parcels) targets exchange)
    (places : (table.map (·.2)).Nodup) {reply : String × Response} {place : Nat}
    (member : reply ∈ exchange.collector.responses) (row : (reply.1, place) ∈ table) :
    place ≠ parcel.handle.node := by
  rintro rfl
  have here := (dispatch.posted parcel (List.mem_cons_self ..)).2.1
  have name := congrArg Prod.fst (List.inj_on_of_nodup_map places row here rfl)
  have apart := (List.nodup_append.mp dispatch.distinct).2.2
  exact apart _ (List.mem_map_of_mem (List.mem_cons_self ..)) _ (List.mem_map_of_mem member)
    name.symm

theorem changed (dispatch : Dispatch table stands leaves (parcel :: parcels) targets exchange)
    (state : ParcelState) (stood : stands { parcel with state }) :
    Dispatch table stands leaves ({ parcel with state } :: parcels) targets exchange := by
  have unlooked := dispatch.unlooked (List.mem_cons_self ..)
  refine { dispatch with
    posted := ?_, asked := ?_, looked := fun looked => absurd unlooked looked }
  · intro other member
    rcases List.mem_cons.mp member with rfl | rest
    · obtain ⟨request, row, _⟩ := dispatch.posted parcel (List.mem_cons_self ..)
      exact ⟨request, row, stood⟩
    · exact dispatch.posted other (List.mem_cons_of_mem _ rest)
  · intro other member
    rcases List.mem_cons.mp member with rfl | rest
    · exact dispatch.asked parcel (List.mem_cons_self ..)
    · exact dispatch.asked other (List.mem_cons_of_mem _ rest)

/-! ## Answers -/

theorem record_failed (dispatch : Dispatch table stands leaves (parcel :: parcels) targets exchange)
    {cause : ClientError} (other : ∀ retries, cause ≠ .backoffExceeded retries) :
    Dispatch table stands leaves parcels targets
      { exchange with collector := exchange.collector.record (.error cause) } := by
  have unlooked := dispatch.unlooked (List.mem_cons_self ..)
  have distinct := dispatch.distinct
  rw [List.map_cons, List.cons_append, List.nodup_cons] at distinct
  constructor
  case posted => exact fun other member => dispatch.posted other (List.mem_cons_of_mem _ member)
  case asked => exact fun other member => dispatch.asked other (List.mem_cons_of_mem _ member)
  case answers => exact dispatch.answers
  case failures =>
    intro failure member
    rcases List.mem_append.mp member with earlier | now
    · exact dispatch.failures failure earlier
    · rw [List.mem_singleton] at now
      subst now
      exact other
  case outstanding => simp [Collector.record, dispatch.outstanding]
  case counted =>
    have counted := dispatch.counted
    simp only [Collector.record, List.length_append, List.length_cons, List.length_nil] at counted ⊢
    omega
  case distinct => exact distinct.2
  case complete =>
    intro none
    simp [Collector.record] at none
  case waits => exact dispatch.waits
  case looked => exact fun looked => absurd unlooked looked
  case settled =>
    intro looked
    cases unlooked.symm.trans looked

theorem record_reply (dispatch : Dispatch table stands leaves (parcel :: parcels) targets exchange)
    {answer : Answer} (left : leaves parcel.handle.node answer)
    (meets : ∀ expected, exchange.expected? = some expected →
      (exchange.request.response answer).meets expected = true) :
    Dispatch table stands leaves parcels targets
      { exchange with
        collector := exchange.collector.record
          (.ok (parcel.handle.qualifier, exchange.request.response answer)) } := by
  have unlooked := dispatch.unlooked (List.mem_cons_self ..)
  have moved : (parcels.map (·.handle.qualifier) ++ (exchange.collector.responses ++
      [(parcel.handle.qualifier, exchange.request.response answer)]).map (·.1)).Perm
      ((parcel :: parcels).map (·.handle.qualifier) ++
        exchange.collector.responses.map (·.1)) := by
    rw [List.map_append, List.map_singleton, ← List.append_assoc]
    exact List.perm_append_singleton _ _
  constructor
  case posted => exact fun other member => dispatch.posted other (List.mem_cons_of_mem _ member)
  case asked => exact fun other member => dispatch.asked other (List.mem_cons_of_mem _ member)
  case answers =>
    intro reply member
    rcases List.mem_append.mp member with earlier | now
    · exact dispatch.answers reply earlier
    · rw [List.mem_singleton] at now
      subst now
      exact ⟨meets, _, answer, (dispatch.posted parcel (List.mem_cons_self ..)).2.1, rfl, left⟩
  case failures => exact dispatch.failures
  case outstanding => simp [Collector.record, dispatch.outstanding]
  case counted =>
    have counted := dispatch.counted
    simp only [Collector.record, List.length_append, List.length_cons, List.length_nil] at counted ⊢
    omega
  case distinct => exact moved.nodup_iff.mpr dispatch.distinct
  case complete => exact fun none => moved.trans (dispatch.complete none)
  case waits => exact dispatch.waits
  case looked => exact fun looked => absurd unlooked looked
  case settled =>
    intro looked
    cases unlooked.symm.trans looked

theorem record (dispatch : Dispatch table stands leaves (parcel :: parcels) targets exchange)
    {answer : Except TransportError Reply}
    (told : ∀ response, answer = .ok (.ok response) → ∃ result,
      response = parcel.request.response result ∧ leaves parcel.handle.node result) :
    Dispatch table stands leaves parcels targets
      (exchange.record parcel.handle.qualifier answer) := by
  have request := (dispatch.posted parcel (List.mem_cons_self ..)).1
  unfold Exchange.record
  rcases exchange.outcome_cases parcel.handle.qualifier answer with
    ⟨response, rfl, outcome, meets⟩ | ⟨cause, outcome, other⟩ <;> rw [outcome]
  · obtain ⟨result, same, left⟩ := told response rfl
    rw [request] at same
    subst same
    exact dispatch.record_reply left meets
  · exact dispatch.record_failed other

section Transit

variable {number index : Nat}

theorem answered_elsewhere
    (dispatch : Dispatch table stands leaves (transit number parcels) targets exchange)
    (found : parcels[index]? = some parcel) (other : parcel.exchange ≠ number) :
    Dispatch table stands leaves (transit number (parcels.eraseIdx index)) targets exchange := by
  have same := dispatch.perm (transit_apart found)
  rwa [transit_other other] at same

theorem answered (dispatch : Dispatch table stands leaves (transit number parcels) targets exchange)
    (found : parcels[index]? = some parcel) (own : parcel.exchange = number)
    {answer : Except TransportError Reply}
    (told : ∀ response, answer = .ok (.ok response) → ∃ result,
      response = parcel.request.response result ∧ leaves parcel.handle.node result) :
    Dispatch table stands leaves (transit number (parcels.eraseIdx index)) targets
      (exchange.record parcel.handle.qualifier answer) := by
  have same := dispatch.perm (transit_apart found)
  rw [transit_own own] at same
  exact same.record told

theorem moved (dispatch : Dispatch table stands leaves (transit number parcels) targets exchange)
    (found : parcels[index]? = some parcel) (state : ParcelState)
    (stood : parcel.exchange = number → stands { parcel with state }) :
    Dispatch table stands leaves (transit number (parcels.set index { parcel with state })) targets
      exchange := by
  have same := dispatch.perm (transit_apart found)
  refine Dispatch.perm ?_ (transit_set found { parcel with state }).symm
  by_cases own : parcel.exchange = number
  · rw [transit_own own] at same
    rw [transit_own (show ({ parcel with state } : Parcel).exchange = number from own)]
    exact same.changed state (stood own)
  · rw [transit_other own] at same
    rw [transit_other (show ({ parcel with state } : Parcel).exchange ≠ number from own)]
    exact same

end Transit

/-! ## Looks -/

/-- While a parcel is in transit, the exchange waits. -/
theorem landed (dispatch : Dispatch table stands leaves parcels targets exchange)
    (enough : exchange.collector.satisfies exchange.wait = true) : parcels = [] := by
  have counted := dispatch.counted
  have outstanding := dispatch.outstanding
  rcases dispatch.waits with waits | waits
  · rw [waits] at enough
    simp only [Collector.satisfies, beq_iff_eq, outstanding] at enough
    exact List.length_eq_zero_iff.mp enough
  · rw [waits] at enough
    simp only [Collector.satisfies, decide_eq_true_eq] at enough
    exact List.length_eq_zero_iff.mp (by omega)

/-- A look goes on with the exchange, or ends it: with one of the failures, or with a reply from
every target. -/
theorem looks (dispatch : Dispatch table stands leaves parcels targets exchange)
    {progress : Exchange.Progress} (looked : exchange.look? = some progress) :
    parcels = [] ∧
      ((∃ next, progress = .goOn { exchange with next } ∧
          Dispatch table stands leaves parcels targets { exchange with next }) ∨
        (∃ cause, progress = .finished (.error cause) ∧
          ∀ retries, cause ≠ .backoffExceeded retries) ∨
        (progress = .finished (.ok exchange.collector.responses) ∧
          (exchange.collector.responses.map (·.1)).Perm targets)) := by
  unfold Exchange.look? at looked
  cases next : exchange.next with
  | count =>
      rw [next] at looked
      dsimp only at looked
      split at looked
      · rename_i enough
        cases looked
        have nothing := dispatch.landed enough
        refine ⟨nothing, Or.inl ⟨_, rfl, ?_⟩⟩
        exact { dispatch with looked := fun _ => nothing, settled := fun looked => by cases looked }
      · cases looked
  | failure =>
      rw [next] at looked
      have nothing := dispatch.looked (by simp [next])
      refine ⟨nothing, ?_⟩
      dsimp only at looked
      split at looked
      · rename_i cause failed
        cases looked
        exact Or.inr (Or.inl ⟨cause, rfl, dispatch.failures cause (List.mem_of_head? failed)⟩)
      · rename_i failed
        cases looked
        have none : exchange.collector.failures = [] := List.head?_eq_none_iff.mp failed
        exact Or.inl ⟨_, rfl,
          { dispatch with looked := fun _ => nothing, settled := fun _ => none }⟩
  | replies =>
      rw [next] at looked
      cases looked
      have nothing := dispatch.looked (by simp [next])
      subst nothing
      exact ⟨rfl, Or.inr (Or.inr ⟨rfl, dispatch.complete (dispatch.settled next)⟩)⟩

/-! ## The beginning -/

theorem just_posted {set : ReplicaSet} {request : Request} {expected? : Option Expected}
    {wait : Wait} {handles : List Handle} (number clock : Nat)
    (asked : set.ask targets request expected? wait = .ok (exchange, handles))
    (distinct : targets.Nodup) (waits : wait = .tasks ∨ wait = .count targets.length)
    (stand : ∀ handle ∈ handles, stands
      { exchange := number, handle, request, due := clock + handle.delay }) :
    Dispatch set.table stands leaves
      (handles.map fun handle =>
        { exchange := number, handle, request := exchange.request, due := clock + handle.delay })
      targets exchange := by
  unfold ReplicaSet.ask at asked
  cases found : set.handlesOf targets with
  | error cause =>
      rw [found] at asked
      cases asked
  | ok others =>
      rw [found] at asked
      cases asked
      obtain ⟨names, known⟩ := ReplicaSet.handles_found found
      have count : targets.length = handles.length := by simp [← names]
      have parcels : (handles.map fun handle =>
          ({ exchange := number, handle, request, due := clock + handle.delay } : Parcel)).map
            (·.handle.qualifier) = targets := by
        simp [List.map_map, Function.comp_def, names]
      constructor
      case posted =>
        intro parcel member
        obtain ⟨handle, inside, rfl⟩ := List.mem_map.mp member
        exact ⟨rfl, known handle inside, stand handle inside⟩
      case asked =>
        intro parcel member
        obtain ⟨handle, inside, rfl⟩ := List.mem_map.mp member
        exact names ▸ List.mem_map_of_mem inside
      case answers => simp
      case failures => simp
      case outstanding => simp [count]
      case counted => simp [count]
      case distinct =>
        rw [parcels]
        simpa using distinct
      case complete =>
        rw [parcels]
        simp
      case waits => exact waits
      case looked => exact fun looked => absurd rfl looked
      case settled => exact fun _ => rfl

end Dispatch

end TupleSpace
