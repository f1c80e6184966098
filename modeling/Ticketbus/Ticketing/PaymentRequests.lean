import Ticketbus.Ticketing.Totals
import Ticketbus.Ticketing.Footprint
import Ticketbus.Concurrency.Conversation

/-! What payment is requested for. The one request of `Reserve` comes after its booking has
been created, and a booking that was created is there for good. -/
namespace Ticketbus.Ticketing
open Ticketbus.Concurrency Ticketbus.Relational

def Requests (call : Call) (exchanges : List (Exchange Statement Reply)) : Prop :=
  ∀ request reply, ⟨.initiateTxnForBooking request,reply⟩ ∈ exchanges → ∃ userEmail sought booking,
    call = .reserve request.userID userEmail sought ∧ ⟨.create booking,.ok ()⟩ ∈ exchanges ∧
      booking.id = request.bookingID ∧ booking.userID = request.userID

theorem Requests.none {call : Call} {exchanges : List (Exchange Statement Reply)}
    (silent : ∀ exchange ∈ exchanges, ∀ request, exchange.1 ≠ .initiateTxnForBooking request) : Requests call exchanges := by
  intro request reply member
  exact absurd rfl (silent _ member request)

theorem Requests.append {call : Call} (before after : List (Exchange Statement Reply)) (first : Requests call before)
    (second : Requests call after) : Requests call (before ++ after) := by
  intro request reply member
  rcases List.mem_append.mp member with early | late
  · obtain ⟨userEmail,sought,booking,isCall,created,names⟩ := first request reply early
    exact ⟨userEmail,sought,booking,isCall,List.mem_append_left _ created,names⟩
  · obtain ⟨userEmail,sought,booking,isCall,created,names⟩ := second request reply late
    exact ⟨userEmail,sought,booking,isCall,List.mem_append_right _ created,names⟩

section Programs
variable {call : Call} {α : Type} {program : Task α}

theorem Requests.after {exchange : Exchange Statement Reply}
    (other : ∀ request, exchange.1 ≠ .initiateTxnForBooking request)
    (issues : program.Issues fun statement => ∀ request, statement ≠ .initiateTxnForBooking request) :
    program.Always fun exchanges _ => Requests call (exchange :: exchanges) :=
  (Program.Always.of_permitted issues).mono fun _ _ silent => .none (List.forall_mem_cons.mpr ⟨other,silent⟩)

theorem Requests.created {booking : Booking} {userEmail : String} {sought : ReserveRequest}
    (issues : program.Issues fun statement => ∀ request, statement = .initiateTxnForBooking request →
      booking.id = request.bookingID ∧ booking.userID = request.userID) :
    program.Always fun exchanges _ =>
      Requests (.reserve booking.userID userEmail sought) (⟨.create booking,.ok ()⟩ :: exchanges) := by
  refine (Program.Always.of_permitted issues).mono fun exchanges _ known => ?_
  intro request reply member
  rcases List.mem_cons.mp member with is | inside
  · cases congrArg Sigma.fst is
  · obtain ⟨booked,user⟩ := known _ inside request rfl
    exact ⟨userEmail,sought,booking,by rw [user],List.mem_cons_self,booked,user⟩

theorem Requests.of_silent
    (issues : program.Issues fun statement => ∀ request, statement ≠ .initiateTxnForBooking request) :
    program.Always fun exchanges _ => Requests call exchanges :=
  (Program.Always.of_permitted issues).mono fun _ _ silent => .none silent

theorem Requests.perform {statement : Statement} {next : Reply statement → Task α}
    (other : ∀ request, statement ≠ .initiateTxnForBooking request)
    (continues : ∀ reply, (next reply).Always fun exchanges _ => Requests call exchanges) :
    (Program.perform statement next).Always fun exchanges _ => Requests call exchanges := by
  refine ⟨.none (by simp),fun reply => (continues reply).mono fun exchanges _ holds => ?_⟩
  refine Requests.append [⟨statement,reply⟩] exchanges (.none ?_) holds
  simpa using other

end Programs

private theorem reserve_requests (reservationTTL : Nat) (userID : ID) (userEmail : String) (sought : ReserveRequest) :
    (BookingHandler.reserve reservationTTL userID userEmail sought).Always fun exchanges _ =>
      Requests (.reserve userID userEmail sought) exchanges := by
  unfold BookingHandler.reserve
  split
  · unfold BookingService.reserve
    split
    · exact .none (by simp)
    refine .seq Requests.append (Requests.of_silent (reserveItems_issues _ _ (by simp) (by simp) (by simp)))
      fun reserved => ?_
    cases reserved with
    | error error => exact .none (by simp)
    | ok value =>
      refine Requests.perform (by simp) fun now => Requests.perform (by simp) fun bookingID =>
        Requests.perform (by simp) fun createdAt => ?_
      rw [Program.done_bind]
      refine .seq Requests.append (Requests.of_silent (nameItems_issues (by simp) bookingID _)) fun named => ?_
      refine ⟨.none (by simp),fun created => ?_⟩
      cases created with
      | error error => exact Requests.after (by simp) ((rollbackSeats_issues named (by simp)).bind fun _ => trivial)
      | ok value =>
        refine Requests.created ((initiateTxnForBooking_issues ?_).bind fun initiated => ?_)
        · intro request is
          cases is
          exact ⟨rfl,rfl⟩
        · cases initiated with
          | error error => exact ⟨by simp,fun _ => (rollbackSeats_issues named (by simp)).bind fun _ => trivial⟩
          | ok value => trivial
  · exact .none (by simp)

theorem program_requests (reservationTTL : Nat) (call : Call) :
    (program reservationTTL call).Always fun exchanges _ => Requests call exchanges := by
  cases call with
  | reserve userID userEmail sought => exact .map _ (reserve_requests reservationTTL userID userEmail sought)
  | _ =>
    refine (Program.Always.of_permitted (program_issues reservationTTL _)).mono fun exchanges _ inside => .none ?_
    intro exchange member request is
    have footprint := inside exchange member
    rw [is] at footprint
    exact footprint.elim

section Requested
variable {reservationTTL : Nat} {config : Pool} {guard : Pool → Step → Prop}

theorem booked_of_created (run : Run (service reservationTTL) guard (.idle .initial) config) :
    ∀ index booking, ⟨index,.create booking,.ok ()⟩ ∈ config.state.history → ∃ row,
      config.state.world.db.bookings.find? booking.id = some row ∧ row.userID = booking.userID := by
  refine run.invariant (fun config => ∀ index booking, ⟨index,.create booking,.ok ()⟩ ∈ config.state.history → ∃ row,
    config.state.world.db.bookings.find? booking.id = some row ∧ row.userID = booking.userID)
    (fun index booking member => by cases member) ?_
  intro config action after path booked _ taken index booking member
  have kept (inside : ⟨index,.create booking,.ok ()⟩ ∈ config.state.history) : ∃ row,
      after.state.world.db.bookings.find? booking.id = some row ∧ row.userID = booking.userID := by
    obtain ⟨row,found,user⟩ := booked index booking inside
    obtain ⟨next,stays,same,_⟩ := (persists_of_next furnished_initial path taken).bookings _ row found
    exact ⟨next,stays,same.trans user⟩
  rcases Config.next_state taken with same | ⟨position,fault,call,statement,next,rfl,found,rfl⟩
  · rw [same] at member
    exact kept member
  · rcases List.mem_cons.mp member with new | old
    · obtain ⟨_,rfl,reply⟩ := Concurrency.Event.mk.inj new
      have ok : (execute (.create booking) fault config.state.world).1 = .ok () := (eq_of_heq reply).symm
      obtain ⟨db,created,stored⟩ := write_ok ok
      obtain ⟨row,fresh,event,_,id,user,_,_,_,_,_,_,bookings⟩ := Database.create_ok created
      refine ⟨row,?_,user⟩
      rw [State.after_world]
      change (write World.put fault config.state.world _).2.db.bookings.find? booking.id = some row
      rw [stored,← id]
      change db.bookings.find? row.id = some row
      rw [bookings]
      exact (Table.find?_insert _ row row.id fresh).trans (if_pos rfl)
    · exact kept old

theorem requested_of_run (run : Run (service reservationTTL) guard (.idle .initial) config) :
    ∀ request ∈ config.state.world.requests, ∃ row,
      config.state.world.db.bookings.find? request.bookingID = some row ∧ row.userID = request.userID := by
  intro request member
  obtain ⟨index,reply,sent⟩ := sent_of_run run request member
  obtain ⟨call,_,requests⟩ := (Talked.of_run run).event sent (program_requests reservationTTL)
  obtain ⟨_,_,booking,_,created,booked,user⟩ := requests request reply (State.mem_exchanges.mpr sent)
  obtain ⟨row,found,same⟩ := booked_of_created run index booking (State.mem_exchanges.mp created)
  exact ⟨row,booked ▸ found,same.trans user⟩

end Requested
end Ticketbus.Ticketing
