import Ticketbus.Auth.Rotation
import Ticketbus.Concurrency.Sequential

/-! A refresh that fails. What the call reads leaves no trace; once its DELETE is committed
the presented token is gone, whatever becomes of the three calls that follow. -/
namespace Ticketbus.Auth
open Ticketbus.Concurrency Ticketbus.Relational

/-- A failure of one of the calls that come after the DELETE. -/
def failsLate : Exchange Statement Reply → Bool
  | ⟨.generateAccessToken _ _ _,reply⟩ => reply.isNone
  | ⟨.generateRefreshToken,reply⟩ => reply.isNone
  | ⟨.createToken _,reply⟩ => !reply.isOk
  | _ => false

section Alone
variable (settings : Settings) (rawRefreshToken : String) (faults : Nat → Fault) (world : World)

/-- `RefreshToken` with no other call running. -/
def refreshAlone : Outcome Statement Reply World (Except Error TokenPair) :=
  (AuthService.refreshToken settings rawRefreshToken).run (execute settings) faults world

inductive RefreshEnds (outcome : Outcome Statement Reply World (Except Error TokenPair)) : Prop
  | refused (error : Error) (value : outcome.value = .error error) (same : outcome.world = world)
      (timely : ∀ exchange ∈ outcome.trace, failsLate exchange = false)
  | lost (error : Error) (stored : RefreshToken) (value : outcome.value = .error error)
      (found : world.db.findByHash (settings.hashRefreshToken rawRefreshToken) = .ok stored)
      (deleted : outcome.world.db = world.db.deleteByHash (settings.hashRefreshToken rawRefreshToken))
      (late : ∃ exchange ∈ outcome.trace, failsLate exchange = true)
  | exchanged (pair : TokenPair) (value : outcome.value = .ok pair)

theorem issueTokens_ends (user : User) : (AuthService.issueTokens settings user).Ensures (execute settings)
    (fun outcome => (∃ pair, outcome.value = .ok pair) ∨ ∃ error, outcome.value = .error error ∧
      outcome.world.db = world.db ∧ ∃ exchange ∈ outcome.trace, failsLate exchange = true) world := by
  apply Program.Ensures.step
  intro signing signed later executed
  have unsigned : later.db = world.db := (congrArg (fun pair => pair.2.db) executed).symm
  cases signed with
  | none => exact .inr ⟨_,rfl,unsigned,_,List.mem_cons_self,rfl⟩
  | some signed =>
    apply Program.Ensures.step
    intro drawing refreshToken drawn executed
    have undrawn : drawn.db = later.db := (congrArg (fun pair => pair.2.db) executed).symm
    cases refreshToken with
    | none => exact .inr ⟨_,rfl,undrawn.trans unsigned,_,List.mem_cons_of_mem _ List.mem_cons_self,rfl⟩
    | some refreshToken =>
      intro _ _
      apply Program.Ensures.step
      intro storing stored after executed
      cases stored with
      | ok _ => exact .inl ⟨_,rfl⟩
      | error error =>
        have unstored := (congrArg Prod.snd executed).symm.trans (write_error (congrArg Prod.fst executed))
        have same := congrArg World.db unstored
        exact .inr ⟨_,rfl,same.trans (undrawn.trans unsigned),_,.tail _ (.tail _ (.tail _ (.tail _ (.head _)))),rfl⟩

theorem refreshToken_ends : (AuthService.refreshToken settings rawRefreshToken).Ensures (execute settings)
    (RefreshEnds settings rawRefreshToken world) world := by
  apply Program.Ensures.step
  rintro looking (error | stored) later executed
  · exact .refused .tokenNotFound rfl (query_eq executed) (List.forall_mem_singleton.mpr rfl)
  have found := query_ok (congrArg Prod.fst executed)
  cases query_eq executed
  intro _
  change Program.Ensures _ _ (if stored.expiresAt < world.clock then _ else _) _
  split
  · exact .refused .tokenExpired rfl rfl (List.forall_mem_cons.mpr ⟨rfl,List.forall_mem_singleton.mpr rfl⟩)
  apply Program.Ensures.step
  rintro finding (error | user) later executed
  · refine .refused .userNotFound rfl (query_eq executed) ?_
    exact List.forall_mem_cons.mpr ⟨rfl,List.forall_mem_cons.mpr ⟨rfl,List.forall_mem_singleton.mpr rfl⟩⟩
  cases query_eq executed
  apply Program.Ensures.step
  rintro deleting (error | deleted) later executed
  · have undeleted := write_error (congrArg Prod.fst executed)
    refine .refused (.db error) rfl ((congrArg Prod.snd executed).symm.trans undeleted) ?_
    refine List.forall_mem_cons.mpr ⟨rfl,List.forall_mem_cons.mpr ⟨rfl,List.forall_mem_cons.mpr ⟨rfl,?_⟩⟩⟩
    exact List.forall_mem_singleton.mpr rfl
  obtain ⟨db,wrote,result⟩ := write_ok (congrArg Prod.fst executed)
  cases wrote
  have gone : later.db = world.db.deleteByHash (settings.hashRefreshToken rawRefreshToken) :=
    congrArg World.db ((congrArg Prod.snd executed).symm.trans result)
  apply (issueTokens_ends settings later user).mono
  rintro outcome (⟨pair,value⟩ | ⟨error,value,same,exchange,member,late⟩)
  · exact .exchanged pair value
  · exact .lost error stored value found (same.trans gone) ⟨exchange,.tail _ (.tail _ (.tail _ (.tail _ member))),late⟩

theorem issueTokens_succeeds {user : User} (known : (world.db.users.find? user.id).isSome)
    (unused : world.db.tokens.find? world.nextID = none) :
    ∃ pair, ((AuthService.issueTokens settings user).run (execute settings) (fun _ => .none) world).value = .ok pair := by
  simp [AuthService.issueTokens,TokenService.generateAccessToken,TokenService.generateRefreshToken,newString,timeNow,
    RefreshTokenRepo.create,Program.run,execute,unlessFaulty,write,World.put,Database.createToken,known,unused,commit,
    Except.map,Outcome.after]

theorem refreshAlone_succeeds {stored : RefreshToken}
    (found : world.db.findByHash (settings.hashRefreshToken rawRefreshToken) = .ok stored)
    (unexpired : world.clock ≤ stored.expiresAt) (unused : world.db.tokens.find? world.nextID = none) :
    ∃ pair, (refreshAlone settings rawRefreshToken (fun _ => .none) world).value = .ok pair := by
  obtain ⟨user,known⟩ := Option.isSome_iff_exists.mp (world.db.tokens_user stored (Database.findByHash_ok found).1)
  have alive : ¬stored.expiresAt < world.clock := not_lt.mpr unexpired
  simp [refreshAlone,AuthService.refreshToken,RefreshTokenRepo.findByHash,timeNow,UserRepo.findByID,
    RefreshTokenRepo.deleteByHash,Program.run,execute,query,found,alive,Outcome.after,Database.findUserByID,known,
    write,World.put,commit,Except.map]
  apply issueTokens_succeeds
  · rw [Table.find?_key known]
    exact Option.isSome_iff_exists.mpr ⟨user,known⟩
  · apply List.find?_eq_none.mpr
    intro token member
    exact List.find?_eq_none.mp unused token (List.mem_of_mem_filter member)

/-- A refresh that fails leaves the stored tokens as they were exactly if none of the calls after
the DELETE has failed; then everything is as it was, and a token that has not expired can be
presented again. -/
theorem failed_refresh_inert (error : Error)
    (failed : (refreshAlone settings rawRefreshToken faults world).value = .error error) :
    ((refreshAlone settings rawRefreshToken faults world).world.db.tokens.rows = world.db.tokens.rows ↔
      ∀ exchange ∈ (refreshAlone settings rawRefreshToken faults world).trace, failsLate exchange = false) ∧
    ((∀ exchange ∈ (refreshAlone settings rawRefreshToken faults world).trace, failsLate exchange = false) →
      (refreshAlone settings rawRefreshToken faults world).world = world ∧
      ∀ stored, world.db.findByHash (settings.hashRefreshToken rawRefreshToken) = .ok stored →
        world.clock ≤ stored.expiresAt → world.db.tokens.find? world.nextID = none →
        ∃ pair, (refreshAlone settings rawRefreshToken (fun _ => .none)
          (refreshAlone settings rawRefreshToken faults world).world).value = .ok pair) := by
  cases (refreshToken_ends settings rawRefreshToken world).run faults with
  | refused _ _ same timely =>
    have unchanged : (refreshAlone settings rawRefreshToken faults world).world = world := same
    rw [unchanged]
    exact ⟨⟨fun _ => timely,fun _ => rfl⟩,fun _ => ⟨rfl,fun stored found unexpired unused =>
      refreshAlone_succeeds settings rawRefreshToken world found unexpired unused⟩⟩
  | lost _ stored _ found deleted late =>
    obtain ⟨exchange,member,isLate⟩ := late
    have untimely : ¬∀ exchange ∈ (refreshAlone settings rawRefreshToken faults world).trace,
        failsLate exchange = false := fun timely => by cases isLate.symm.trans (timely exchange member)
    refine ⟨⟨fun same => ?_,fun timely => absurd timely untimely⟩,fun timely => absurd timely untimely⟩
    -- the presented token is gone
    obtain ⟨present,hash⟩ := Database.findByHash_ok found
    rw [← same,show (refreshAlone settings rawRefreshToken faults world).world.db = _ from deleted] at present
    simpa [hash] using (List.mem_filter.mp present).2
  | exchanged pair value => cases failed.symm.trans value

end Alone

/-- A user who has registered and logged in. -/
def loggedIn : World :=
  ((AuthService.login sandbox "a" "p").run (execute sandbox) (fun _ => .none)
    ((AuthService.register "a" "p" "n" .customer).run (execute sandbox) (fun _ => .none) .initial).world).world

/-- The DELETE itself fails. -/
theorem failed_refresh_inert_undeleted :
    (refreshAlone sandbox "s" (failingAt 3) loggedIn).value = .error (.db .connection) ∧
    (refreshAlone sandbox "s" (failingAt 3) loggedIn).world = loggedIn :=
  ⟨by decide +kernel,
    ((failed_refresh_inert sandbox "s" (failingAt 3) loggedIn (.db .connection) (by decide +kernel)).2
      (by decide +kernel)).1⟩

/-- The signing of the new access token fails, when the old refresh token is gone. -/
theorem failed_refresh_ends_session : ¬∀ (settings : Settings) (rawRefreshToken : String) (faults : Nat → Fault)
    (world : World) (error : Error), (refreshAlone settings rawRefreshToken faults world).value = .error error →
    (refreshAlone settings rawRefreshToken faults world).world.db.tokens.rows = world.db.tokens.rows := by
  intro inert
  have kept := inert sandbox "s" (failingAt 4) loggedIn .signFailed (by decide +kernel)
  have lost : (refreshAlone sandbox "s" (failingAt 4) loggedIn).world.db.tokens.rows ≠ loggedIn.db.tokens.rows := by
    decide +kernel
  exact lost kept

end Ticketbus.Auth
