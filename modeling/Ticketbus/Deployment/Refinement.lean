import Ticketbus.Deployment.Agreement
import Ticketbus.Deployment.Network
import Ticketbus.Outbox.Host
import Ticketbus.Ticketing.Footprint
import Ticketbus.Payment.Effects
import Ticketbus.Payment.Footprint

/-! Every run of the network is a run of `System`: what the consumers are given is what the
services have inserted, and reads as the call that it asks for. -/
namespace Ticketbus
open Ticketbus.Concurrency Ticketbus.Relational

namespace Ticketing

theorem execute_put (statement : Statement) (outside : ∀ inner, statement ≠ .outbox inner) (fault : Fault) (world : World)
    (own : Outbox.Store Message) : execute statement fault {world with outbox := own} =
      ((execute statement fault world).1,{(execute statement fault world).2 with outbox := own}) := by
  cases statement with
  | newString | now | advance => rfl
  | createEvent | updateEvent | createTicketType | init | reserve | release | setPrice | create
  | updateStatusIfPending | transitionAndReleaseSeats | delete =>
    exact write_frame (fun world : World => {world with outbox := own}) fun _ => rfl
  | findEventByID | eventStatus | listTicketTypesByEvent | getPrice | findBooking | listItems | listBookings
  | listBookingsByUser | initiateTxnForBooking => cases fault <;> rfl
  | outbox inner => exact absurd rfl (outside inner)

def outboxHost (reservationTTL : Nat) : Outbox.Host (service reservationTTL) Message where
  statement := .outbox
  answer := fun _ reply => reply
  store := World.outbox
  put := fun world own => {world with outbox := own}
  batch := .processBatch
  finish := fun _ => .unit (.ok ())
  program_batch := rfl
  insert_reply := fun _ fault _ _ => by cases fault <;> rfl
  frame := execute_put

theorem inserts_of_footprint (call : Call) (inner : Outbox.Statement Message)
    (inside : Footprint call (.outbox inner)) (other : call ≠ .processBatch) : ∃ message, inner = .insert message := by
  cases inner with
  | insert message => exact ⟨message,rfl⟩
  | undelivered | produce | markDelivered =>
    cases call with
    | processBatch => exact absurd rfl other
    | _ => exact inside.elim

end Ticketing

namespace Payment

theorem execute_put {settings : Settings} (statement : Statement) (outside : ∀ inner, statement ≠ .outbox inner)
    (fault : Fault) (world : World) (own : Outbox.Store Message) :
    execute settings statement fault {world with outbox := own} =
      ((execute settings statement fault world).1,{(execute settings statement fault world).2 with outbox := own}) := by
  cases statement with
  | newString | now | advance => rfl
  | create | transitionIfActive | transitionIfInitiated | updateSession | updateRefundStatus | createRefund =>
    exact write_frame (fun world : World => {world with outbox := own}) fun _ => rfl
  | findByBookingID | listByEventID | listActiveExpired | createSession | cancelSession => cases fault <;> rfl
  | outbox inner => exact absurd rfl (outside inner)

def outboxHost (settings : Settings) : Outbox.Host (service settings) Message where
  statement := .outbox
  answer := fun _ reply => reply
  store := World.outbox
  put := fun world own => {world with outbox := own}
  batch := .processBatch
  finish := fun _ => .unit (.ok ())
  program_batch := rfl
  insert_reply := fun _ fault _ _ => by cases fault <;> rfl
  frame := execute_put

theorem inserts_of_footprint (call : Call) (inner : Outbox.Statement Message)
    (inside : Footprint call (.outbox inner)) (other : call ≠ .processBatch) : ∃ message, inner = .insert message := by
  cases inner with
  | insert message => exact ⟨message,rfl⟩
  | undelivered | produce | markDelivered =>
    cases call with
    | processBatch => exact absurd rfl other
    | _ => exact inside.elim

end Payment

namespace Deployment
open Wire
variable {reservationTTL : Nat} {settings : Payment.Settings} {codec : Codec}

theorem append_added {Message : Type} {before after : Outbox.Store Message} (grows : before.messages <+: after.messages) :
    before.messages ++ added before after = after.messages := by
  obtain ⟨more,same⟩ := grows
  rw [added,← same,List.drop_left]

namespace Network
variable {network after : Network} {move : Move}

/-- The step of a service that a move of the network makes: one from outside, or the call
that a consumer has read in its message. -/
def Makes (codec : Codec) (network : Network) (move : Move) : Deployment.Move → Prop
  | .inl action => move = .ticketing action ∨ ∃ subscriber hand message call, move = .enter subscriber hand ∧
      network.messageOf subscriber hand = some message ∧ codec.handler subscriber message.value = .ok (.inl call) ∧
      action = .start call
  | .inr action => move = .payment action ∨ ∃ subscriber hand message call, move = .enter subscriber hand ∧
      network.messageOf subscriber hand = some message ∧ codec.handler subscriber message.value = .ok (.inr call) ∧
      action = .start call

theorem next_cases (taken : network.next reservationTTL settings codec move = some after) :
    (∃ action, network.ticketing.next (Ticketing.service reservationTTL) action = some after.ticketing ∧
      network.Makes codec move (.inl action) ∧ after.payment = network.payment ∧
      after.bus = network.commit codec .ticketing
        ((added network.ticketing.state.world.outbox after.ticketing.state.world.outbox).map .inl)) ∨
    (∃ action, network.payment.next (Payment.service settings) action = some after.payment ∧
      network.Makes codec move (.inr action) ∧ after.ticketing = network.ticketing ∧
      after.bus = network.commit codec .payment
        ((added network.payment.state.world.outbox after.payment.state.world.outbox).map .inr)) ∨
    (after.ticketing = network.ticketing ∧ after.payment = network.payment ∧
      ∃ moved, network.bus.next Subscriber.topic moved = some after.bus ∧
        (move = .bus moved ∨ ∃ subscriber hand outcome, moved = .consume subscriber (.handle hand outcome))) := by
  cases move with
  | ticketing action =>
    obtain ⟨pool,moved,rfl⟩ := Option.map_eq_some_iff.mp taken
    exact .inl ⟨action,moved,.inl rfl,rfl,rfl⟩
  | payment action =>
    obtain ⟨pool,moved,rfl⟩ := Option.map_eq_some_iff.mp taken
    exact .inr (.inl ⟨action,moved,.inl rfl,rfl,rfl⟩)
  | bus moved =>
    obtain ⟨bus,isBus,rfl⟩ := Option.map_eq_some_iff.mp taken
    exact .inr (.inr ⟨rfl,rfl,moved,isBus,.inl rfl⟩)
  | enter subscriber hand =>
    simp only [Network.next] at taken
    split at taken
    · rename_i message busy _
      split at taken
      · rename_i call reads
        obtain ⟨entered,started,rfl⟩ := Option.map_eq_some_iff.mp taken
        obtain ⟨pool,moved,rfl⟩ := Option.map_eq_some_iff.mp started
        exact .inl ⟨.start call,moved,.inr ⟨subscriber,hand,message,call,rfl,busy,reads,rfl⟩,rfl,rfl⟩
      · rename_i call reads
        obtain ⟨entered,started,rfl⟩ := Option.map_eq_some_iff.mp taken
        obtain ⟨pool,moved,rfl⟩ := Option.map_eq_some_iff.mp started
        exact .inr (.inl ⟨.start call,moved,.inr ⟨subscriber,hand,message,call,rfl,busy,reads,rfl⟩,rfl,rfl⟩)
      · cases taken
    · cases taken
  | leave subscriber hand =>
    obtain ⟨message,busy,rest⟩ := Option.bind_eq_some_iff.mp taken
    obtain ⟨outcome,_,rest⟩ := Option.bind_eq_some_iff.mp rest
    obtain ⟨group,isGroup,rfl⟩ := Option.map_eq_some_iff.mp rest
    refine .inr (.inr ⟨rfl,rfl,.consume subscriber (.handle hand outcome),?_,.inr ⟨subscriber,hand,outcome,rfl⟩⟩)
    exact Option.map_eq_some_iff.mpr ⟨group,isGroup,rfl⟩

section Inserts
variable {codec : Codec}

theorem insertAll_messages (cluster : Outbox.Cluster Json.Value) (messages : List Message) :
    (insertAll codec cluster messages).store.messages = cluster.store.messages ++ messages.map codec.record := by
  induction messages generalizing cluster with
  | nil => exact (List.append_nil _).symm
  | cons message rest ih =>
    have first : (cluster.insert (codec.record message) .none).store.messages =
        cluster.store.messages ++ [codec.record message] := Outbox.Store.messages_insert ..
    rw [insertAll,List.foldl_cons]
    exact (ih _).trans (by rw [first,List.append_assoc]; rfl)

theorem path_insertAll (bus : Kafka.Bus Source Subscriber Json.Value) (source : Source) (messages : List Message) :
    Path (Kafka.Bus.next Subscriber.topic) Anything bus
      (bus.setOutbox source (insertAll codec (bus.outboxes source) messages)) := by
  induction messages generalizing bus with
  | nil =>
    rw [show bus.setOutbox source (insertAll codec (bus.outboxes source) []) = bus from
      congrArg (Kafka.Bus.mk · bus.groups bus.lost) (Function.update_eq_self source bus.outboxes)]
    exact .refl
  | cons message rest ih =>
    let row := codec.record message
    let cluster := (bus.outboxes source).insert row .none
    have silent : (bus.outboxes source).sent cluster = none := if_neg (Nat.lt_irrefl _)
    have inserted : bus.next Subscriber.topic (.relay source (.insert row.topic row.key (some row.payload) .none) []) =
        some (bus.setOutbox source cluster) := by
      simp only [Kafka.Bus.next,Outbox.Cluster.next,Option.elim,Option.bind_some]
      rw [silent]
      rfl
    have later := ih (bus.setOutbox source cluster)
    simp only [Kafka.Bus.setOutbox,Function.update_self,Function.update_idem] at later
    exact (Path.step _ .refl trivial inserted).trans later

theorem commit_messages (network : Network) (source : Source) (messages : List Message) :
    ((network.commit codec source messages).outboxes source).store.messages =
      (network.bus.outboxes source).store.messages ++ messages.map codec.record := by
  simp only [commit,Kafka.Bus.setOutbox,Function.update_self]
  exact insertAll_messages ..

theorem commit_other (network : Network) {source other : Source} (messages : List Message) (distinct : other ≠ source) :
    (network.commit codec source messages).outboxes other = network.bus.outboxes other :=
  Function.update_of_ne distinct ..

end Inserts

structure Sound (codec : Codec) (network : Network) : Prop where
  bus : Path (Kafka.Bus.next Subscriber.topic) Anything .initial network.bus
  ticketing : (network.bus.outboxes .ticketing).store.messages =
    network.ticketing.state.world.outbox.messages.map fun message => codec.record (.inl message)
  payment : (network.bus.outboxes .payment).store.messages =
    network.payment.state.world.outbox.messages.map fun message => codec.record (.inr message)

theorem Sound.initial : Network.initial.Sound codec := ⟨.refl,rfl,rfl⟩

theorem inserts_wired {moved : Kafka.Bus.Move Source Subscriber Json.Value}
    {bus : Kafka.Bus Source Subscriber Json.Value} (permitted : network.Wired move)
    (which : move = .bus moved ∨ ∃ subscriber hand outcome, moved = .consume subscriber (.handle hand outcome))
    (isBus : network.bus.next Subscriber.topic moved = some bus) (source : Source) :
    (bus.outboxes source).store.messages = (network.bus.outboxes source).store.messages := by
  have inserts (origin : Source) (inner : Outbox.Move Json.Value) (places : List Nat)
      (same : moved = .relay origin inner places) (topic key : String) (payload : Option Json.Value) (fault : Fault) :
      inner ≠ .insert topic key payload fault := by
    rintro rfl
    rcases which with rfl | ⟨_,_,_,rfl⟩
    · subst same
      cases permitted
    · cases same
  have relayed {origin : Source} {inner : Outbox.Move Json.Value} {cluster : Outbox.Cluster Json.Value}
      (places : List Nat) (same : moved = .relay origin inner places)
      (isNext : (network.bus.outboxes origin).next inner = some cluster) :
      (Function.update network.bus.outboxes origin cluster source).store.messages =
        (network.bus.outboxes source).store.messages := by
    by_cases own : source = origin
    · subst own
      rw [Function.update_self]
      exact Outbox.Cluster.next_messages isNext (inserts source inner places same)
    · rw [Function.update_of_ne own]
  rcases Kafka.Bus.next_cases isBus with ⟨origin,inner,cluster,same,isNext,_,rfl⟩ |
    ⟨origin,inner,cluster,call,places,same,isNext,_,_,rfl⟩ | ⟨subscriber,inner,group,_,_,_,rfl⟩
  · exact relayed [] same isNext
  · exact relayed places same isNext
  · rfl

theorem Sound.next (sound : network.Sound codec) (permitted : network.Wired move)
    (taken : network.next reservationTTL settings codec move = some after) : after.Sound codec := by
  rcases next_cases taken with ⟨action,moved,_,same,bus⟩ | ⟨action,moved,_,same,bus⟩ | ⟨ticketing,payment,moved,isBus,which⟩
  · have grows : network.ticketing.state.world.outbox.messages ++ _ = after.ticketing.state.world.outbox.messages :=
      append_added ((Ticketing.outboxHost reservationTTL).messages_next moved)
    refine ⟨bus ▸ sound.bus.trans (path_insertAll ..),?_,?_⟩
    · rw [bus,commit_messages,sound.ticketing,← grows,List.map_append,List.map_map]
      rfl
    · rw [bus,commit_other _ _ (by decide),same,sound.payment]
  · have grows : network.payment.state.world.outbox.messages ++ _ = after.payment.state.world.outbox.messages :=
      append_added ((Payment.outboxHost settings).messages_next moved)
    refine ⟨bus ▸ sound.bus.trans (path_insertAll ..),?_,?_⟩
    · rw [bus,commit_other _ _ (by decide),same,sound.ticketing]
    · rw [bus,commit_messages,sound.payment,← grows,List.map_append,List.map_map]
      rfl
  · refine ⟨.step moved sound.bus trivial isBus,?_,?_⟩
    · rw [inserts_wired permitted which isBus,ticketing,sound.ticketing]
    · rw [inserts_wired permitted which isBus,payment,sound.payment]

theorem sound_of_path (path : Path (Network.next reservationTTL settings codec) Wired .initial network) :
    network.Sound codec :=
  path.invariant (Sound codec) .initial fun _ _ _ _ sound permitted taken => sound.next permitted taken

theorem Sound.stored (sound : network.Sound codec) {source : Source} {id : Nat} {record : Outbox.Record Json.Value}
    (stored : Outbox.Stored (network.bus.outboxes source).store id record) :
    ∃ message ∈ network.messages, codec.record message = record := by
  obtain ⟨row,member,_,rfl⟩ := stored
  have inserted : row.message ∈ (network.bus.outboxes source).store.messages := List.mem_map_of_mem member
  cases source with
  | ticketing =>
    rw [sound.ticketing] at inserted
    obtain ⟨message,isMessage,same⟩ := List.mem_map.mp inserted
    exact ⟨.inl message,List.mem_append_left _ (List.mem_map_of_mem isMessage),same⟩
  | payment =>
    rw [sound.payment] at inserted
    obtain ⟨message,isMessage,same⟩ := List.mem_map.mp inserted
    exact ⟨.inr message,List.mem_append_right _ (List.mem_map_of_mem isMessage),same⟩

theorem Sound.read (sound : network.Sound codec) {subscriber : Subscriber} {message : Kafka.Message Json.Value}
    (real : (network.bus.groups subscriber).Real message) :
    ∃ asked ∈ network.messages, ∃ call, asked.asks subscriber = some call ∧
      codec.handler subscriber message.value = .ok call := by
  have serves := (Kafka.Bus.faithful_of_path sound.bus).groups subscriber
  obtain ⟨source,id,stored⟩ := serves.logged _ _ message real
  obtain ⟨asked,member,same⟩ := sound.stored stored
  obtain ⟨call,asks,reads⟩ := handler_reads_record codec asked subscriber (by rw [same])
  rw [same] at reads
  exact ⟨asked,member,call,asks,reads⟩

theorem Sound.busy (sound : network.Sound codec) {subscriber : Subscriber} {hand : Nat} {message : Kafka.Message Json.Value}
    (busy : network.messageOf subscriber hand = some message) : (network.bus.groups subscriber).Real message := by
  obtain ⟨consumer,present,job⟩ := Option.bind_eq_some_iff.mp busy
  have serves := (Kafka.Bus.faithful_of_path sound.bus).groups subscriber
  exact (serves.genuine.crew consumer present).hands _ (Crew.jobAt_mem job)

end Network

def Wire.Call.start : Call → Move
  | .inl call => .inl (.start call)
  | .inr call => .inr (.start call)

def System.Published (system : System) : Message → Prop
  | .inl message => message ∈ system.1.state.world.outbox.broker
  | .inr message => message ∈ system.2.state.world.outbox.broker

theorem delivers_of_asks {system : System} {message : Message} {subscriber : Subscriber} {call : Call}
    (asks : message.asks subscriber = some call) (published : system.Published message) :
    Delivers system call.start := by
  rcases message with (⟨eventID,at_⟩ | ⟨ticketID,bookingID,userID,eventID,ticketTypeID⟩) |
    (⟨transactionID,bookingID,eventID,userID,at_⟩ | ⟨transactionID,bookingID,eventID,userID,reason,at_⟩)
  · cases subscriber with
    | paymentCompleted | paymentExpired => cases asks
    | eventCancelled | refunds =>
      cases asks
      exact List.any_eq_true.mpr ⟨_,published,decide_eq_true rfl⟩
  · cases subscriber <;> cases asks
  · cases subscriber with
    | paymentCompleted =>
      cases asks
      exact List.any_eq_true.mpr ⟨_,published,by simp⟩
    | paymentExpired | eventCancelled | refunds => cases asks
  · cases subscriber with
    | paymentExpired =>
      cases asks
      exact List.any_eq_true.mpr ⟨_,published,decide_eq_true rfl⟩
    | paymentCompleted | eventCancelled | refunds => cases asks

structure Simulates (reservationTTL : Nat) (settings : Payment.Settings) (network : Network) (system : System) : Prop where
  ticketing : (Ticketing.outboxHost reservationTTL).Mirrored network.ticketing system.1
  payment : (Payment.outboxHost settings).Mirrored network.payment system.2

namespace Simulates
variable {network after : Network} {system : System}

theorem published (simulates : Simulates reservationTTL settings network system) {message : Message}
    (inserted : message ∈ network.messages) : system.Published message := by
  rcases List.mem_append.mp inserted with ours | ours
  · obtain ⟨message,member,rfl⟩ := List.mem_map.mp ours
    exact simulates.ticketing.2.published (simulates.ticketing.1.worlds.messages ▸ member)
  · obtain ⟨message,member,rfl⟩ := List.mem_map.mp ours
    exact simulates.payment.2.published (simulates.payment.1.worlds.messages ▸ member)

theorem requests (simulates : Simulates reservationTTL settings network system) :
    system.1.state.world.requests = network.ticketing.state.world.requests := by
  obtain ⟨own,same,_⟩ := simulates.ticketing.1.worlds
  rw [same]
  rfl

end Simulates

theorem Wire.Message.asks_foreground {message : Message} {subscriber : Subscriber} {call : Call}
    (asks : message.asks subscriber = some call) : call ≠ .inl .processBatch ∧ call ≠ .inr .processBatch := by
  rcases message with (_ | _) | (_ | _) <;> cases subscriber <;> cases asks <;> exact ⟨nofun,nofun⟩

namespace Network
variable {network after : Network} {move : Move}

theorem Sound.entered (sound : network.Sound codec) {subscriber : Subscriber} {hand : Nat}
    {message : Kafka.Message Json.Value} {call : Call} (busy : network.messageOf subscriber hand = some message)
    (reads : codec.handler subscriber message.value = .ok call) :
    ∃ asked ∈ network.messages, asked.asks subscriber = some call := by
  obtain ⟨asked,member,called,asks,isCall⟩ := sound.read (sound.busy busy)
  cases reads.symm.trans isCall
  exact ⟨asked,member,asks⟩

theorem Sound.foregroundTicketing {call : Ticketing.Call} (sound : network.Sound codec) (permitted : network.Wired move)
    (makes : network.Makes codec move (.inl (.start call))) : call ≠ .processBatch := by
  rintro rfl
  rcases makes with rfl | ⟨subscriber,hand,message,other,_,busy,reads,same⟩
  · cases permitted
  · cases same
    obtain ⟨asked,_,asks⟩ := sound.entered busy reads
    exact (asked.asks_foreground asks).1 rfl

theorem Sound.foregroundPayment {call : Payment.Call} (sound : network.Sound codec) (permitted : network.Wired move)
    (makes : network.Makes codec move (.inr (.start call))) : call ≠ .processBatch := by
  rintro rfl
  rcases makes with rfl | ⟨subscriber,hand,message,other,_,busy,reads,same⟩
  · cases permitted
  · cases same
    obtain ⟨asked,_,asks⟩ := sound.entered busy reads
    exact (asked.asks_foreground asks).2 rfl

theorem Sound.deliversTicketing {call : Ticketing.Call} {system : System} (sound : network.Sound codec)
    (permitted : network.Wired move) (makes : network.Makes codec move (.inl (.start call)))
    (simulates : Simulates reservationTTL settings network system) : Delivers system (.inl (.start call)) := by
  rcases makes with rfl | ⟨subscriber,hand,message,other,_,busy,reads,same⟩
  · cases call with
    | confirm | expireOnPaymentExpired | cancelBookings => cases permitted
    | _ => rfl
  · cases same
    obtain ⟨asked,member,asks⟩ := sound.entered busy reads
    exact delivers_of_asks asks (simulates.published member)

theorem Sound.deliversPayment {call : Payment.Call} {system : System} (sound : network.Sound codec)
    (permitted : network.Wired move) (makes : network.Makes codec move (.inr (.start call)))
    (simulates : Simulates reservationTTL settings network system) : Delivers system (.inr (.start call)) := by
  rcases makes with rfl | ⟨subscriber,hand,message,other,_,busy,reads,same⟩
  · cases call with
    | handleEventCancelled => cases permitted
    | initiateTxnForBooking request =>
      unfold Delivers delivers
      rw [simulates.requests]
      exact permitted
    | _ => rfl
  · cases same
    obtain ⟨asked,member,asks⟩ := sound.entered busy reads
    exact delivers_of_asks asks (simulates.published member)

structure Calls (reservationTTL : Nat) (settings : Payment.Settings) (network : Network) : Prop where
  ticketing : Run (Ticketing.service reservationTTL) (Admitting (Ticketing.outboxHost reservationTTL).foreground Anything)
    (.idle .initial) network.ticketing
  payment : Run (Payment.service settings) (Admitting (Payment.outboxHost settings).foreground Anything)
    (.idle .initial) network.payment

theorem calls_of_path (path : Path (Network.next reservationTTL settings codec) Wired .initial network) :
    network.Calls reservationTTL settings := by
  refine path.invariant (Calls reservationTTL settings) ⟨.refl,.refl⟩ ?_
  intro network move after path calls permitted taken
  have sound := sound_of_path path
  rcases next_cases taken with ⟨action,moved,makes,same,_⟩ | ⟨action,moved,makes,same,_⟩ | ⟨ticketing,payment,_⟩
  · refine ⟨.step action calls.ticketing ?_ moved,same ▸ calls.payment⟩
    cases action with
    | start call => exact ⟨decide_eq_true (sound.foregroundTicketing permitted makes),trivial⟩
    | step | stop => trivial
  · refine ⟨same ▸ calls.ticketing,.step action calls.payment ?_ moved⟩
    cases action with
    | start call => exact ⟨decide_eq_true (sound.foregroundPayment permitted makes),trivial⟩
    | step | stop => trivial
  · exact ⟨ticketing ▸ calls.ticketing,payment ▸ calls.payment⟩

end Network

section Refinement
variable {network after : Network} {move : Network.Move} {system : System}

theorem Simulates.next (path : Path (Network.next reservationTTL settings codec) Network.Wired .initial network)
    (permitted : network.Wired move) (taken : network.next reservationTTL settings codec move = some after)
    (simulates : Simulates reservationTTL settings network system) :
    ∃ later, Path (Deployment.next reservationTTL settings) Delivers system later ∧
      Simulates reservationTTL settings after later := by
  have sound := Network.sound_of_path path
  have calls := Network.calls_of_path path
  rcases Network.next_cases taken with ⟨action,moved,makes,same,_⟩ | ⟨action,moved,makes,same,_⟩ | ⟨ticketing,payment,_⟩
  · obtain ⟨pool,along,mirrored⟩ := simulates.ticketing.next moved
      (fun call starts => decide_eq_true (sound.foregroundTicketing permitted (starts ▸ makes)))
      (Outbox.Host.calm_of_run (Ticketing.program_issues reservationTTL) Ticketing.inserts_of_footprint calls.ticketing)
    refine ⟨(pool,system.2),along.besideRight ?_,mirrored,same ▸ simulates.payment⟩
    intro config act passes
    cases act with
    | start call =>
      rcases passes call rfl with rfl | ⟨rfl,rfl⟩
      · rfl
      · exact sound.deliversTicketing permitted makes simulates
    | step | stop => rfl
  · obtain ⟨pool,along,mirrored⟩ := simulates.payment.next moved
      (fun call starts => decide_eq_true (sound.foregroundPayment permitted (starts ▸ makes)))
      (Outbox.Host.calm_of_run (Payment.program_issues settings) Payment.inserts_of_footprint calls.payment)
    refine ⟨(system.1,pool),along.besideLeft ?_,same ▸ simulates.ticketing,mirrored⟩
    intro config act passes
    cases act with
    | start call =>
      rcases passes call rfl with rfl | ⟨rfl,rfl⟩
      · rfl
      · exact sound.deliversPayment permitted makes simulates
    | step | stop => rfl
  · exact ⟨system,.refl,ticketing ▸ simulates.ticketing,payment ▸ simulates.payment⟩

theorem Simulates.initial : Simulates reservationTTL settings .initial .initial :=
  ⟨⟨.idle _ _ ⟨.empty,rfl,rfl⟩,Outbox.Store.flushed_empty⟩,.idle _ _ ⟨.empty,rfl,rfl⟩,Outbox.Store.flushed_empty⟩

theorem exists_simulation (path : Path (Network.next reservationTTL settings codec) Network.Wired .initial network) :
    ∃ system, Path (Deployment.next reservationTTL settings) Delivers .initial system ∧
      Simulates reservationTTL settings network system :=
  path.simulated (Simulates reservationTTL settings) .initial fun _ _ _ _ path permitted taken simulates =>
    simulates.next path permitted taken

end Refinement

/-- The same data, messages and calls, the passes of the workers aside. -/
structure Matches (network : Network) (system : System) : Prop where
  ticketing : {system.1.state.world with outbox := network.ticketing.state.world.outbox} = network.ticketing.state.world
  payment : {system.2.state.world with outbox := network.payment.state.world.outbox} = network.payment.state.world
  ticketingMessages : system.1.state.world.outbox.messages = network.ticketing.state.world.outbox.messages
  paymentMessages : system.2.state.world.outbox.messages = network.payment.state.world.outbox.messages
  ticketingCalls : system.1.threads.filter (fun thread => thread.call ≠ .processBatch) = network.ticketing.threads
  paymentCalls : system.2.threads.filter (fun thread => thread.call ≠ .processBatch) = network.payment.threads

theorem Simulates.matches {network : Network} {system : System} (simulates : Simulates reservationTTL settings network system) :
    Matches network system where
  ticketing := by
    obtain ⟨own,same,_⟩ := simulates.ticketing.1.worlds
    rw [same]
    rfl
  payment := by
    obtain ⟨own,same,_⟩ := simulates.payment.1.worlds
    rw [same]
    rfl
  ticketingMessages := simulates.ticketing.1.worlds.messages
  paymentMessages := simulates.payment.1.worlds.messages
  ticketingCalls := simulates.ticketing.1.threads
  paymentCalls := simulates.payment.1.threads

/-- Whatever the tables, the workers, the topics and the consumers do, and however the
messages are written and read: what the services are brought to, they are also brought to by
calls that messages of theirs have asked for. -/
theorem network_refines_system (reservationTTL : Nat) (settings : Payment.Settings) (codec : Codec) (network : Network)
    (path : Path (Network.next reservationTTL settings codec) Network.Wired .initial network) :
    ∃ system, Path (next reservationTTL settings) Delivers .initial system ∧ Matches network system := by
  obtain ⟨system,reached,simulates⟩ := exists_simulation path
  exact ⟨system,reached,simulates.matches⟩

def wiredPurchase : List Network.Move :=
  Ticketing.reservation.map .ticketing ++
  (.start (.initiateTxnForBooking ⟨2,0,3,"e",20,900000000000⟩) :: Payment.undisturbed 0 2 ++
    .start (.processPayment 2 3) :: Payment.undisturbed 1 7 ++
    .start (.handleSessionWebhook (some ⟨.completed,some 2,"ps",""⟩)) :: Payment.undisturbed 2 4).map .payment ++
  [.launch 1,.query 0 .none [],.send 0,.receive 0 0].map (fun move => .bus (.relay .payment move [])) ++
  [.bus (.relay .payment (.work 0 0 .none) [2]),.bus (.relay .payment (.work 0 0 .none) [])] ++
  [.start 1,.read 2,.send,.receive 0].map (fun move => .bus (.consume .paymentCompleted move)) ++
  .enter .paymentCompleted 0 :: (Ticketing.undisturbed 3 5).map .ticketing ++ [.leave .paymentCompleted 0]

theorem network_refines_system_purchase : ∃ network : Network,
    Path (Network.next 900000000000 Payment.sandbox unary) Network.Wired .initial network ∧
    (network.bus.groups .paymentCompleted).handled.map Kafka.Handling.outcome = [.ok ()] ∧
    network.ticketing.state.world.db.bookings.rows.map Ticketing.BookingRow.status = [.confirmed] ∧
    ∃ system, Path (next 900000000000 Payment.sandbox) Delivers .initial system ∧ Matches network system := by
  obtain ⟨network,path,outcome⟩ := exists_path_of_follow (Network.next 900000000000 Payment.sandbox unary) Network.Wired
    wiredPurchase .initial (fun network => decide
      ((network.bus.groups .paymentCompleted).handled.map Kafka.Handling.outcome = [.ok ()] ∧
        network.ticketing.state.world.db.bookings.rows.map Ticketing.BookingRow.status = [.confirmed])) (by decide +kernel)
  obtain ⟨handled,confirmed⟩ := of_decide_eq_true outcome
  exact ⟨network,path,handled,confirmed,network_refines_system _ _ unary network path⟩

end Deployment
end Ticketbus
