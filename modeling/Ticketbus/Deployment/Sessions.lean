import Ticketbus.Deployment.Access
import Ticketbus.Deployment.Transactions

/-! Who pays. A session at the payment gateway is for a transaction, the transaction for a
request of the ticketing service, the request for a stored booking; and the user of all of
them is the one whose token was with the request to pay. -/
namespace Ticketbus.Deployment.Site
open Ticketbus.Concurrency

variable {settings : Settings} {site : Site}

/-- A session is opened only for a request with a token of the customer who has reserved the
booking. -/
theorem sessions_opened_by_owner (path : Path (next settings) (Unforged settings) initial site) (index : Nat)
    (request : Payment.SessionRequest) (reply : Payment.Reply (.createSession request))
    (opened : ⟨index,.createSession request,reply⟩ ∈ site.payment.state.history) :
    ∃ user, ∃ visit ∈ site.visits, visit.index = index ∧
      visit.call = .inr (.inr (.processPayment request.refID user.id)) ∧ site.Presents visit.request user ∧
      ∃ row ∈ site.ticketing.state.world.db.bookings.rows, row.id = request.refID ∧ row.userID = user.id ∧
        Reserves settings site user row.eventID := by
  have sound := sound_of_path path
  obtain ⟨txn,started,_,read⟩ := Payment.opened_of_session sound.payment opened
  obtain ⟨stored,member,isBooking,fixed⟩ := Payment.stored_of_read sound.payment read
  obtain ⟨row,kept,isRow,isUser⟩ := booked_of_transaction sound.system member
  have sameUser : stored.transaction.fixed.userID = txn.fixed.userID := congrArg Payment.Transaction.userID fixed
  have owner : row.userID = txn.userID := isUser.trans sameUser
  -- the caller's token names the user of the transaction, the booking's owner has reserved it
  have at_ : CallAt site.system index (.inr (.processPayment request.refID txn.userID)) := started
  obtain ⟨visit,inside,is,isIndex⟩ := sound.asked index _ at_ rfl
  obtain ⟨user,presents,created,_,same,_⟩ | ⟨_,_,isWebhook⟩ := (sound.carried visit inside _ is).backed
  · obtain ⟨reserver,isReserver,reserves⟩ := sound.reserved (Ticketing.reserved_of_run sound.ticketing row kept)
    obtain rfl := reserves.2.1.unique user created (same.symm.trans (owner.symm.trans isReserver.symm))
    exact ⟨user,visit,inside,isIndex,same ▸ is,presents,row,kept,isRow.trans isBooking,owner.trans same,reserves⟩
  · cases isWebhook

theorem sessions_opened_by_owner_purchase : ∃ site : Site, Path (next sandbox) (Unforged sandbox) initial site ∧
    ∃ index request reply, ⟨index,.createSession request,reply⟩ ∈ site.payment.state.history ∧
      ∃ user, ∃ visit ∈ site.visits, visit.index = index ∧
        visit.call = .inr (.inr (.processPayment request.refID user.id)) ∧ site.Presents visit.request user ∧
        ∃ row ∈ site.ticketing.state.world.db.bookings.rows, row.id = request.refID ∧ row.userID = user.id ∧
          Reserves sandbox site user row.eventID := by
  obtain ⟨site,path,outcome⟩ := exists_path_of_follow (next sandbox) (Unforged sandbox) purchase initial
    (fun site => site.payment.state.history.any fun event =>
      event.op = .createSession ⟨2,20,"IDR",900000000000,[],"c"⟩) (by decide +kernel)
  obtain ⟨⟨index,statement,reply⟩,member,opens⟩ := List.any_eq_true.mp outcome
  cases of_decide_eq_true opens
  exact ⟨site,path,index,_,reply,member,sessions_opened_by_owner path index _ reply member⟩

end Ticketbus.Deployment.Site
