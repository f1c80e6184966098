import Ticketbus.Auth.Rotation
import Ticketbus.Concurrency.Conversation

/-! Whom the service issues tokens to. An id names one user for all time, a refresh token
is stored for a user who has logged in, and so every access token is signed for a user whose
password was once presented, however many exchanges lie in between. -/
namespace Ticketbus.Auth
open Ticketbus.Concurrency Ticketbus.Relational

def Created (state : View) (user : User) : Prop := ∃ index, ⟨index,.createUser user,.ok ()⟩ ∈ state.history

structure Minted (state : View) (drawn : Multiset ID) : Prop where
  stored : ∀ user ∈ state.world.db.users.rows, Created state user
  known : ∀ user, Created state user → user.id < state.world.nextID
  unique : ∀ user other, Created state user → Created state other → user.id = other.id → user = other
  fresh : ∀ id ∈ drawn, id < state.world.nextID ∧ ∀ user, Created state user → user.id ≠ id
  unshared : drawn.Nodup

def Statement.createsUser : Statement → Bool
  | .createUser _ => true
  | _ => false

theorem execute_users (settings : Settings) {statement : Statement} (fault : Fault) (world : World)
    (other : statement.createsUser = false) :
    (execute settings statement fault world).2.db.users.rows ⊆ world.db.users.rows ∧
      world.nextID ≤ (execute settings statement fault world).2.nextID := by
  cases statement with
  | newString => exact ⟨fun _ => id,Nat.le_succ _⟩
  | now | advance duration | hashPassword password | generateAccessToken userID email role | generateRefreshToken =>
    exact ⟨fun _ => id,le_refl _⟩
  | findByEmail email | findUserByID id | findByHash hash => simp [execute]
  | createUser user => cases other
  | createToken token =>
    rcases write_cases World.put fault world (world.db.createToken token) with ⟨_,db,_,ok,result⟩ | ⟨_,result⟩
    · rw [show execute settings (.createToken token) fault world = _ from result]
      unfold Database.createToken at ok
      split at ok
      · split at ok
        · cases ok
          exact ⟨fun _ => id,le_refl _⟩
        · cases ok
      · cases ok
    · rw [show execute settings (.createToken token) fault world = _ from result]
      exact ⟨fun _ => id,le_refl _⟩
  | deleteUserByID id =>
    rcases write_cases World.put fault world (.ok ((),world.db.removeUser id)) with ⟨_,db,_,ok,result⟩ | ⟨_,result⟩
    · rw [show execute settings (.deleteUserByID id) fault world = _ from result]
      cases ok
      exact ⟨fun _ => List.mem_of_mem_filter,le_refl _⟩
    · rw [show execute settings (.deleteUserByID id) fault world = _ from result]
      exact ⟨List.Subset.refl _,le_refl _⟩
  | deleteByHash hash =>
    rcases write_cases World.put fault world (.ok ((),world.db.deleteByHash hash)) with ⟨_,db,_,ok,result⟩ | ⟨_,result⟩
    · rw [show execute settings (.deleteByHash hash) fault world = _ from result]
      cases ok
      exact ⟨fun _ => id,le_refl _⟩
    · rw [show execute settings (.deleteByHash hash) fault world = _ from result]
      exact ⟨fun _ => id,le_refl _⟩

theorem Database.createUser_ok {db after : Database} {user : User} (ok : db.createUser user = .ok ((),after)) :
    after.users.rows = db.users.rows ++ [user] := by
  unfold Database.createUser at ok
  split at ok
  · split at ok
    · cases ok
      rfl
    · cases ok
  · cases ok

namespace Minted
variable {settings : Settings} {index : Nat} {state : View} {drawn less : Multiset ID}

theorem mono (minted : Minted state drawn) (fewer : less ≤ drawn) : Minted state less where
  stored := minted.stored
  known := minted.known
  unique := minted.unique
  fresh id member := minted.fresh id (Multiset.mem_of_le fewer member)
  unshared := Multiset.nodup_of_le fewer minted.unshared

private theorem created_later {statement : Statement} {fault : Fault} {user : User} (created : Created state user) :
    Created (state.after (service settings) index statement fault) user := by
  obtain ⟨position,member⟩ := created
  exact ⟨position,List.mem_cons_of_mem _ member⟩

private theorem created_before {statement : Statement} {fault : Fault} (other : statement.createsUser = false) {user : User}
    (created : Created (state.after (service settings) index statement fault) user) : Created state user := by
  obtain ⟨position,member⟩ := created
  rcases List.mem_cons.mp member with new | old
  · rw [← show Statement.createUser user = statement from congrArg Event.op new] at other
    cases other
  · exact ⟨position,old⟩

theorem pass {statement : Statement} {fault : Fault} (minted : Minted state drawn)
    (other : statement.createsUser = false) :
    Minted (state.after (service settings) index statement fault) drawn := by
  obtain ⟨rows,grows⟩ := execute_users settings fault state.world other
  have created {user : User} (later : Created (state.after (service settings) index statement fault) user) :
      Created state user := created_before other later
  constructor
  · exact fun user member => created_later (minted.stored user (rows member))
  · exact fun user later => lt_of_lt_of_le (minted.known user (created later)) grows
  · exact fun user other first second => minted.unique user other (created first) (created second)
  · intro id member
    obtain ⟨bound,unused⟩ := minted.fresh id member
    exact ⟨lt_of_lt_of_le bound grows,fun user later => unused user (created later)⟩
  · exact minted.unshared

theorem draw {fault : Fault} (minted : Minted state drawn) :
    Minted (state.after (service settings) index .newString fault) (state.world.nextID ::ₘ drawn) := by
  have passed : Minted (state.after (service settings) index .newString fault) drawn := minted.pass rfl
  refine ⟨passed.stored,passed.known,passed.unique,fun id member => ?_,?_⟩
  · rcases Multiset.mem_cons.mp member with rfl | old
    · refine ⟨Nat.lt_succ_self _,fun user created => ?_⟩
      exact (minted.known user (created_before rfl created)).ne
    · exact passed.fresh id old
  · refine Multiset.nodup_cons.mpr ⟨fun member => ?_,minted.unshared⟩
    exact lt_irrefl _ (minted.fresh _ member).1

theorem create {user : User} {fault : Fault} (minted : Minted state (user.id ::ₘ drawn)) :
    Minted (state.after (service settings) index (.createUser user) fault) drawn := by
  have fewer := minted.mono (Multiset.le_cons_self drawn user.id)
  obtain ⟨absent,unshared⟩ := Multiset.nodup_cons.mp minted.unshared
  obtain ⟨bound,unused⟩ := minted.fresh user.id (Multiset.mem_cons_self _ _)
  -- the new event creates the user if it succeeds
  have created {other : User} (later : Created (state.after (service settings) index (.createUser user) fault) other) :
      other = user ∨ Created state other := by
    obtain ⟨position,member⟩ := later
    rcases List.mem_cons.mp member with new | old
    · exact .inl (Statement.createUser.inj (congrArg Event.op new))
    · exact .inr ⟨position,old⟩
  have nextID : (state.after (service settings) index (.createUser user) fault).world.nextID = state.world.nextID := by
    change (write World.put fault state.world _).2.nextID = _
    rcases write_cases World.put fault state.world (state.world.db.createUser user) with ⟨_,_,_,_,result⟩ | ⟨_,result⟩ <;> rw [result]
  constructor
  · intro other member
    cases reply : (execute settings (.createUser user) fault state.world).1 with
    | error error =>
      have same : (state.after (service settings) index (.createUser user) fault).world = state.world :=
        write_error reply
      rw [same] at member
      exact created_later (minted.stored other member)
    | ok value =>
      obtain ⟨db,ok,written⟩ := write_ok reply
      have same : (state.after (service settings) index (.createUser user) fault).world = {state.world with db := db} :=
        written
      rw [same] at member
      rw [show db.users.rows = _ from Database.createUser_ok ok] at member
      rcases List.mem_append.mp member with old | new
      · exact created_later (minted.stored other old)
      · cases List.mem_singleton.mp new
        refine ⟨index,?_⟩
        rw [State.after_history,← reply]
        exact List.mem_cons_self
  · intro other later
    rw [nextID]
    rcases created later with rfl | old
    · exact bound
    · exact minted.known other old
  · intro one other first second same
    rcases created first with rfl | old
    · rcases created second with rfl | older
      · rfl
      · exact absurd same.symm (unused other older)
    · rcases created second with rfl | older
      · exact absurd same (unused one old)
      · exact minted.unique one other old older same
  · intro id member
    obtain ⟨below,unlike⟩ := fewer.fresh id member
    rw [nextID]
    refine ⟨below,fun other later => ?_⟩
    rcases created later with rfl | old
    · exact fun same => absent (same ▸ member)
    · exact unlike other old
  · exact unshared

end Minted

def minting : Protocol Statement Reply World Fault Call (Multiset ID) where
  evolves before after := ∀ event ∈ before.history, event ∈ after.history
  evolves_refl _ _ member := member
  evolves_trans _ _ _ before after event member := after event (before event member)
  invariant := Minted
  permits _ _ _ _ _ _ := True
  fits _ _ _ _ _ := True

section Ids
variable {settings : Settings} {index : Nat} {call : Call} {α β : Type} {state : View} {own : Multiset ID}

abbrev Mints (settings : Settings) (index : Nat) (call : Call) (program : Task α) (state : View) (own : Multiset ID) : Prop :=
  Clears (service settings) minting index call program state own

namespace Mints

theorem perform {statement : Statement} {next : Reply statement → Task α}
    (steps : ∀ (later : View) (fault : Fault) (frame : Multiset ID), Minted later (own + frame) →
      ∃ kept, Minted (later.after (service settings) index statement fault) (kept + frame) ∧
        Mints settings index call (next (execute settings statement fault later.world).1)
          (later.after (service settings) index statement fault) kept) :
    Mints settings index call (.perform statement next) state own :=
  fun later _ frame inv => ⟨trivial,fun fault _ =>
    ⟨fun _ member => List.mem_cons_of_mem _ member,steps later fault frame inv⟩⟩

theorem pass {statement : Statement} {next : Reply statement → Task α} (other : statement.createsUser = false)
    (continues : ∀ reply later, Mints settings index call (next reply) later own) :
    Mints settings index call (.perform statement next) state own :=
  perform fun _ _ _ inv => ⟨own,inv.pass other,continues _ _⟩

theorem of_issues {program : Task α} (issues : program.Issues fun statement => statement.createsUser = false) :
    Mints settings index call program state 0 := by
  induction program generalizing state with
  | done value => exact .done
  | perform statement next ih => exact pass issues.1 fun reply later => ih reply (issues.2 reply)

end Mints

theorem createAccount_mints (email password name : String) (role : Role) :
    Mints settings index call (AuthService.createAccount email password name role) state 0 := by
  refine Mints.pass rfl fun hashed first => ?_
  cases hashed with
  | none => exact .done
  | some passwordHash =>
    refine Mints.perform fun second fault frame inv => ⟨{second.world.nextID},?_,?_⟩
    · rw [zero_add] at inv
      rw [Multiset.singleton_add]
      exact inv.draw
    refine Mints.perform fun third again frame inv => ⟨0,?_,?_⟩
    · rw [Multiset.singleton_add] at inv
      rw [zero_add]
      exact inv.create
    · rcases (execute settings (.createUser _) again third.world).1 with error | _
      · exact .done
      · exact .done

theorem register_mints (email password name : String) (role : Role) :
    Mints settings index call (AuthService.register email password name role) state 0 := by
  refine Mints.pass rfl fun found first => ?_
  cases found with
  | ok user => exact .done
  | error error => exact createAccount_mints email password name role

theorem seedAdmins_mints (created : Nat) (admins : List AdminSeed) :
    Mints settings index call (AuthService.seedAdmins created admins) state 0 := by
  induction admins generalizing created state with
  | nil => exact .done
  | cons seed rest ih =>
    refine .bind (Mints.pass rfl fun found first => ?_) fun outcome later => ?_
    · cases found with
      | ok user => exact .done
      | error error =>
        change Mints settings index call ((AuthService.createAccount _ _ _ _).bind _) first 0
        refine .bind (createAccount_mints _ _ _ _) fun account later => ?_
        cases account <;> exact .done
    · rcases outcome with error | _ | _
      · exact .done
      · exact ih created
      · exact ih (created + 1)

theorem program_stays {call : Call} (other : call.createsUsers = false) :
    (program settings call).Issues fun statement => statement.createsUser = false := by
  refine (program_issues settings call).mono fun statement inside => ?_
  cases statement <;> first | rfl | cases other.symm.trans inside

theorem program_mints (call : Call) : Mints settings index call (program settings call) state 0 := by
  cases call with
  | register email password name role => exact .bind (register_mints email password name role) fun _ _ => .done
  | registerOrganizer email password name => exact .bind (register_mints email password name .eo) fun _ _ => .done
  | seedAdmins admins => exact .bind (seedAdmins_mints 0 admins) fun _ _ => .done
  | _ => exact Mints.of_issues (program_stays rfl)

theorem minting_obeyed (settings : Settings) : Obeys (service settings) minting (fun _ _ _ _ own => own = 0) Anything
    (.idle .initial) where
  starts _ call _ _ := program_mints call
  steps _ _ _ _ _ _ _ _ _ _ _ _ _ := trivial
  stops _ _ _ _ _ _ _ _ _ inv := inv.mono (Multiset.le_add_left ..)

theorem minted_of_run {config : Pool} (run : Run (service settings) Anything (.idle .initial) config) :
    ∃ drawn, Minted config.state drawn := by
  have initially : Minted ⟨World.initial,[]⟩ 0 := by
    refine ⟨?_,?_,?_,?_,Multiset.nodup_zero⟩
    all_goals simp [Created,World.initial,Database.empty]
  have holds := (PoolHolds.idle World.initial initially).run (minting_obeyed settings) run
  exact holds.invariant_holds

end Ids

/-! What a call has been told by the time it issues tokens or creates users. -/

def Statement.issues : Statement → Bool
  | .generateAccessToken .. | .createToken _ => true
  | _ => false

def Statement.IssuedTo (user : User) : Statement → Prop
  | .generateAccessToken userID email role => userID = user.id ∧ email = user.email ∧ role = user.role
  | .createToken token => token.userID = user.id
  | _ => True

def Entitled (settings : Settings) (call : Call) (exchanges : List (Exchange Statement Reply)) (user : User) : Prop :=
  (∃ email password, call = .login email password ∧ ⟨.findByEmail email,.ok user⟩ ∈ exchanges ∧
    settings.verify password user.passwordHash = true) ∨
  ∃ hash token, ⟨.findByHash hash,.ok token⟩ ∈ exchanges ∧ ⟨.findUserByID token.userID,.ok user⟩ ∈ exchanges

def IssuesEntitled (settings : Settings) (call : Call) (exchanges : List (Exchange Statement Reply)) : Prop :=
  ∀ exchange ∈ exchanges, exchange.1.issues = true → ∃ user, exchange.1.IssuedTo user ∧ Entitled settings call exchanges user

def Call.Creates (user : User) (password : String) : Call → Prop
  | .register email given name role => user.email = email ∧ password = given ∧ user.name = name ∧ user.role = role
  | .registerOrganizer email given name => user.email = email ∧ password = given ∧ user.name = name ∧ user.role = .eo
  | .seedAdmins admins => user.role = .admin ∧ ∃ seed ∈ admins, user.email = seed.email ∧ password = seed.password
  | _ => False

def CreatesHashed (makes : User → String → Prop) (exchanges : List (Exchange Statement Reply)) : Prop :=
  ∀ user reply, ⟨.createUser user,reply⟩ ∈ exchanges →
    ∃ password, makes user password ∧ ⟨.hashPassword password,some user.passwordHash⟩ ∈ exchanges

section Conversations
variable {settings : Settings}

theorem IssuesEntitled.silent {call : Call} {exchanges : List (Exchange Statement Reply)}
    (silent : ∀ exchange ∈ exchanges, exchange.1.issues = false) : IssuesEntitled settings call exchanges := by
  intro exchange member issues
  rw [silent exchange member] at issues
  cases issues

theorem issueTokens_entitled {call : Call} {user : User} {before : List (Exchange Statement Reply)}
    (silent : ∀ exchange ∈ before, exchange.1.issues = false) (entitled : Entitled settings call before user) :
    (AuthService.issueTokens settings user).Always fun exchanges _ => IssuesEntitled settings call (before ++ exchanges) := by
  have issues : (AuthService.issueTokens settings user).Issues fun statement => statement.IssuedTo user :=
    issueTokens_issues ⟨rfl,rfl,rfl⟩ trivial trivial trivial fun _ same => same
  refine (Program.Always.of_permitted issues).mono fun exchanges _ issued => ?_
  intro exchange member issues
  rcases List.mem_append.mp member with early | late
  · rw [silent exchange early] at issues
    cases issues
  · refine ⟨user,issued exchange late,?_⟩
    rcases entitled with ⟨email,password,isCall,found,verified⟩ | ⟨hash,token,read,found⟩
    · exact .inl ⟨email,password,isCall,List.mem_append_left _ found,verified⟩
    · exact .inr ⟨hash,token,List.mem_append_left _ read,List.mem_append_left _ found⟩

theorem login_entitled (email password : String) :
    (AuthService.login settings email password).Always fun exchanges _ =>
      IssuesEntitled settings (.login email password) exchanges := by
  refine ⟨.silent (by simp),fun found => ?_⟩
  rcases found with error | user
  · exact .silent (by simp [Statement.issues])
  simp only [Program.done_bind]
  split
  · rename_i verified
    exact issueTokens_entitled (by simp [Statement.issues]) (.inl ⟨email,password,rfl,List.mem_singleton.mpr rfl,verified⟩)
  · exact .silent (by simp [Statement.issues])

theorem refreshToken_entitled (call : Call) (raw : String) :
    (AuthService.refreshToken settings raw).Always fun exchanges _ => IssuesEntitled settings call exchanges := by
  refine ⟨.silent (by simp),fun found => ?_⟩
  rcases found with error | token
  · exact .silent (by simp [Statement.issues])
  refine ⟨.silent (by simp [Statement.issues]),fun now => ?_⟩
  simp only [Program.done_bind]
  split
  · exact .silent (by simp [Statement.issues])
  refine ⟨.silent (by simp [Statement.issues]),fun owner => ?_⟩
  rcases owner with error | user
  · exact .silent (by simp [Statement.issues])
  refine ⟨.silent (by simp [Statement.issues]),fun deleted => ?_⟩
  rcases deleted with error | _
  · exact .silent (by simp [Statement.issues])
  · have entitled : Entitled settings call [⟨.findByHash (settings.hashRefreshToken raw),.ok token⟩,⟨.now,now⟩,
        ⟨.findUserByID token.userID,.ok user⟩,⟨.deleteByHash (settings.hashRefreshToken raw),.ok ()⟩] user :=
      .inr ⟨_,token,List.mem_cons_self,by simp⟩
    exact issueTokens_entitled (by simp [Statement.issues]) entitled

theorem program_entitled (call : Call) :
    (program settings call).Always fun exchanges _ => IssuesEntitled settings call exchanges := by
  have issues := program_issues settings call
  cases call with
  | login email password => exact .map _ (login_entitled email password)
  | refreshToken raw => exact .map _ (refreshToken_entitled _ raw)
  | _ =>
    refine (Program.Always.of_permitted issues).mono fun _ _ inside => .silent fun ⟨statement,_⟩ member => ?_
    have footprint := inside _ member
    cases statement <;> first | rfl | cases footprint

namespace CreatesHashed
variable {makes : User → String → Prop}

theorem none {exchanges : List (Exchange Statement Reply)}
    (silent : ∀ exchange ∈ exchanges, exchange.1.createsUser = false) : CreatesHashed makes exchanges := by
  intro user reply member
  cases silent _ member

theorem append (before after : List (Exchange Statement Reply)) (first : CreatesHashed makes before)
    (second : CreatesHashed makes after) : CreatesHashed makes (before ++ after) := by
  intro user reply member
  rcases List.mem_append.mp member with early | late
  · obtain ⟨password,made,hashed⟩ := first user reply early
    exact ⟨password,made,List.mem_append_left _ hashed⟩
  · obtain ⟨password,made,hashed⟩ := second user reply late
    exact ⟨password,made,List.mem_append_right _ hashed⟩

theorem mono {more : User → String → Prop} {exchanges : List (Exchange Statement Reply)}
    (weaker : ∀ user password, makes user password → more user password) (creates : CreatesHashed makes exchanges) :
    CreatesHashed more exchanges := by
  intro user reply member
  obtain ⟨password,made,hashed⟩ := creates user reply member
  exact ⟨password,weaker _ _ made,hashed⟩

theorem afterLookup {α : Type} {email : String} {next : Except DbError User → Task α}
    (continues : ∀ found, (next found).Always fun exchanges _ => CreatesHashed makes exchanges) :
    ((UserRepo.findByEmail email).bind next).Always fun exchanges _ => CreatesHashed makes exchanges := by
  refine .seq append ⟨none (by simp),fun found => none ?_⟩ continues
  simp [Statement.createsUser]

end CreatesHashed

theorem createAccount_hashes {makes : User → String → Prop} {email password name : String} {role : Role}
    (made : ∀ id passwordHash, makes ⟨id,email,passwordHash,name,role⟩ password) :
    (AuthService.createAccount email password name role).Always fun exchanges _ => CreatesHashed makes exchanges := by
  refine ⟨.none (by simp),fun hashed => ?_⟩
  cases hashed with
  | none => exact .none (by simp [Statement.createsUser])
  | some passwordHash =>
    refine ⟨.none (by simp [Statement.createsUser]),fun id => ⟨.none (by simp [Statement.createsUser]),fun created => ?_⟩⟩
    have hashes : CreatesHashed makes [⟨.hashPassword password,some passwordHash⟩,⟨.newString,id⟩,
        ⟨.createUser ⟨id,email,passwordHash,name,role⟩,created⟩] := by
      intro user reply member
      simp only [List.mem_cons,List.not_mem_nil,or_false] at member
      rcases member with is | is | is
      · cases congrArg Sigma.fst is
      · cases congrArg Sigma.fst is
      · cases congrArg Sigma.fst is
        exact ⟨password,made _ _,List.mem_cons_self⟩
    cases created <;> exact hashes

theorem register_hashes (email password name : String) (role : Role) :
    (AuthService.register email password name role).Always fun exchanges _ =>
      CreatesHashed (fun user given => user.email = email ∧ given = password ∧ user.name = name ∧ user.role = role) exchanges := by
  refine CreatesHashed.afterLookup fun found => ?_
  cases found with
  | ok user => exact .none (by simp)
  | error error => exact createAccount_hashes fun _ _ => ⟨rfl,rfl,rfl,rfl⟩

theorem seedOne_hashes (email password name : String) :
    (AuthService.seedOne email password name).Always fun exchanges _ =>
      CreatesHashed (fun user given => user.role = .admin ∧ user.email = email ∧ given = password) exchanges := by
  refine CreatesHashed.afterLookup fun found => ?_
  cases found with
  | ok user => exact .none (by simp)
  | error error =>
    refine .seq CreatesHashed.append (createAccount_hashes fun _ _ => ⟨rfl,rfl,rfl⟩) fun account => ?_
    cases account <;> exact .none (by simp)

theorem seedAdmins_hashes (created : Nat) (admins : List AdminSeed) :
    (AuthService.seedAdmins created admins).Always fun exchanges _ =>
      CreatesHashed (fun user given => user.role = .admin ∧ ∃ seed ∈ admins, user.email = seed.email ∧ given = seed.password)
        exchanges := by
  induction admins generalizing created with
  | nil => exact .none (by simp)
  | cons seed rest ih =>
    refine .seq CreatesHashed.append ((seedOne_hashes _ _ _).mono fun exchanges _ => ?_) fun outcome => ?_
    · exact .mono fun user given made => ⟨made.1,seed,List.mem_cons_self,made.2⟩
    · have others (created : Nat) : (AuthService.seedAdmins created rest).Always fun exchanges _ =>
          CreatesHashed (fun user given => user.role = .admin ∧
            ∃ other ∈ seed :: rest, user.email = other.email ∧ given = other.password) exchanges := by
        refine (ih created).mono fun exchanges _ => .mono fun user given ⟨role,other,inside,made⟩ => ?_
        exact ⟨role,other,List.mem_cons_of_mem seed inside,made⟩
      rcases outcome with error | _ | _
      · exact .none (by simp)
      · exact others created
      · exact others (created + 1)

theorem program_hashes (call : Call) :
    (program settings call).Always fun exchanges _ => CreatesHashed (fun user given => call.Creates user given) exchanges := by
  cases call with
  | register email password name role => exact .map _ (register_hashes email password name role)
  | registerOrganizer email password name => exact .map _ (register_hashes email password name .eo)
  | seedAdmins admins => exact .map _ (seedAdmins_hashes 0 admins)
  | _ => exact (Program.Always.of_permitted (program_stays rfl)).mono fun _ _ silent => .none silent

end Conversations

/-! What has been stored and looked up in a run. -/

/-- A call was given the password of the user. -/
def Authenticated (settings : Settings) (config : Pool) (user : User) : Prop :=
  ∃ password, .login user.email password ∈ config.calls ∧ settings.verify password user.passwordHash = true

/-- A call has stored the user's account, with the hash of the password it was given. -/
def Account (settings : Settings) (config : Pool) (user : User) : Prop :=
  ∃ index call password, ⟨index,.createUser user,.ok ()⟩ ∈ config.state.history ∧ config.calls[index]? = some call ∧
    call.Creates user password ∧ ∃ salt, settings.hash salt password = some user.passwordHash

/-- The id is that of a user who has logged in. -/
def Vouched (settings : Settings) (config : Pool) (id : ID) : Prop :=
  ∃ user, Created config.state user ∧ user.id = id ∧ Authenticated settings config user

structure Trusted (settings : Settings) (config : Pool) : Prop where
  tokens : ∀ token ∈ config.state.world.db.tokens.rows, Vouched settings config token.userID
  read : ∀ index hash token, ⟨index,.findByHash hash,.ok token⟩ ∈ config.state.history → Vouched settings config token.userID

theorem Database.findByEmail_ok {db : Database} {email : String} {user : User} (ok : db.findByEmail email = .ok user) :
    user ∈ db.users.rows ∧ user.email = email := by
  unfold Database.findByEmail at ok
  split at ok
  · cases ok
  · rename_i found
    cases ok
    exact ⟨List.mem_of_find?_eq_some found,by simpa using List.find?_some found⟩

theorem Database.findUserByID_ok {db : Database} {id : ID} {user : User} (ok : db.findUserByID id = .ok user) :
    user ∈ db.users.rows ∧ user.id = id := by
  unfold Database.findUserByID at ok
  split at ok
  · cases ok
  · rename_i found
    cases ok
    exact ⟨Table.find?_mem found,Table.find?_key found⟩

section Runs
variable {settings : Settings} {config after : Pool} {action : Step}

theorem created_of_read (run : Run (service settings) Anything (.idle .initial) config) {index : Nat} {statement : Statement}
    {reply : Reply statement} (member : ⟨index,statement,reply⟩ ∈ config.state.history) {user : User} {known : Prop}
    (stored : ∀ fault world, (execute settings statement fault world).1 = reply → user ∈ world.db.users.rows ∧ known) :
    Created config.state user ∧ known := by
  obtain ⟨middle,fault,before,remaining,answered⟩ := run.executed member
  obtain ⟨_,minted⟩ := minted_of_run before
  obtain ⟨inside,isKnown⟩ := stored fault _ answered
  obtain ⟨position,created⟩ := minted.stored user inside
  exact ⟨⟨position,remaining.event_kept created⟩,isKnown⟩

theorem account_of_created (run : Run (service settings) Anything (.idle .initial) config) {user : User}
    (created : Created config.state user) : Account settings config user := by
  obtain ⟨index,member⟩ := created
  obtain ⟨call,started,hashes⟩ := (Talked.of_run run).event member program_hashes
  obtain ⟨password,makes,hashed⟩ := hashes user _ (State.mem_exchanges.mpr member)
  obtain ⟨middle,fault,_,_,reply⟩ := run.executed (State.mem_exchanges.mp hashed)
  refine ⟨index,call,password,member,started,makes,middle.state.world.salts,?_⟩
  cases fault with
  | none => exact reply
  | fail | broken => cases reply

theorem authenticated_of_entitled (run : Run (service settings) Anything (.idle .initial) config)
    (read : ∀ index hash token, ⟨index,.findByHash hash,.ok token⟩ ∈ config.state.history →
      Vouched settings config token.userID) {index : Nat} {call : Call} {user : User}
    (started : config.calls[index]? = some call) (entitled : Entitled settings call (config.state.exchanges index) user) :
    Created config.state user ∧ Authenticated settings config user := by
  rcases entitled with ⟨email,password,rfl,found,verified⟩ | ⟨hash,token,stored,looked⟩
  · obtain ⟨created,rfl⟩ := created_of_read run (State.mem_exchanges.mp found) fun _ _ reply =>
      Database.findByEmail_ok (query_ok reply)
    exact ⟨created,password,List.mem_of_getElem? started,verified⟩
  · obtain ⟨created,same⟩ := created_of_read run (State.mem_exchanges.mp looked) fun _ _ reply =>
      Database.findUserByID_ok (query_ok reply)
    obtain ⟨owner,known,isOwner,authenticated⟩ := read _ _ _ (State.mem_exchanges.mp stored)
    obtain ⟨_,minted⟩ := minted_of_run run
    obtain rfl := minted.unique owner user known created (isOwner.trans same.symm)
    exact ⟨created,authenticated⟩

theorem Vouched.kept (taken : config.next (service settings) action = some after) {id : ID}
    (vouched : Vouched settings config id) : Vouched settings after id := by
  obtain ⟨user,⟨index,created⟩,same,password,started,verified⟩ := vouched
  have step : Run (service settings) Anything config after := .step action .refl trivial taken
  exact ⟨user,⟨index,Run.event_kept step created⟩,same,password,Config.calls_kept taken started,verified⟩

theorem execute_tokens (settings : Settings) (statement : Statement) (fault : Fault) (world : World) {token : RefreshToken}
    (member : token ∈ (execute settings statement fault world).2.db.tokens.rows) :
    token ∈ world.db.tokens.rows ∨ statement = .createToken token := by
  cases statement with
  | createToken other =>
    rcases write_cases World.put fault world (world.db.createToken other) with ⟨_,db,_,ok,result⟩ | ⟨_,result⟩
    · rw [show execute settings (.createToken other) fault world = _ from result] at member
      rw [show db.tokens.rows = _ from Database.createToken_ok ok] at member
      rcases List.mem_append.mp member with old | new
      · exact .inl old
      · cases List.mem_singleton.mp new
        exact .inr rfl
    · rw [show execute settings (.createToken other) fault world = _ from result] at member
      exact .inl member
  | deleteByHash hash =>
    rcases write_cases World.put fault world (.ok ((),world.db.deleteByHash hash)) with ⟨_,db,_,ok,result⟩ | ⟨_,result⟩
    · rw [show execute settings (.deleteByHash hash) fault world = _ from result] at member
      cases ok
      exact .inl (List.mem_of_mem_filter member)
    · rw [show execute settings (.deleteByHash hash) fault world = _ from result] at member
      exact .inl member
  | generateRefreshToken => exact .inl member
  | _ => exact .inl ((execute_leavesTokens settings fault world rfl).1.subset member)

theorem Trusted.next (run : Run (service settings) Anything (.idle .initial) config) (trusted : Trusted settings config)
    (taken : config.next (service settings) action = some after) : Trusted settings after := by
  have runAfter : Run (service settings) Anything (.idle .initial) after := .step action run trivial taken
  rcases Config.next_state taken with same | ⟨index,fault,call,statement,next,rfl,found,rfl⟩
  · constructor
    · intro token member
      rw [same] at member
      exact (trusted.tokens token member).kept taken
    · intro index hash token member
      rw [same] at member
      exact (trusted.read index hash token member).kept taken
  · have read (position : Nat) (hash : String) (token : RefreshToken) (member : ⟨position,.findByHash hash,.ok token⟩ ∈
        (config.state.after (service settings) index statement fault).history) : Vouched settings
          ⟨config.state.after (service settings) index statement fault,config.threads.set index
            ⟨call,some (next ((service settings).execute statement fault config.state.world).1)⟩⟩ token.userID := by
      rcases List.mem_cons.mp member with new | old
      · obtain ⟨_,rfl,reply⟩ := Event.mk.inj new
        obtain ⟨stored,_⟩ := Database.findByHash_ok (query_ok (eq_of_heq reply).symm)
        exact (trusted.tokens token stored).kept taken
      · exact (trusted.read position hash token old).kept taken
    refine ⟨fun token member => ?_,read⟩
    rcases execute_tokens settings statement fault config.state.world member with old | rfl
    · exact (trusted.tokens token old).kept taken
    · -- the row is new: its call was entitled to it
      obtain ⟨caller,started,issues⟩ := (Talked.of_run runAfter).event List.mem_cons_self program_entitled
      obtain ⟨user,same,entitled⟩ := issues _ (State.mem_exchanges.mpr List.mem_cons_self) rfl
      obtain ⟨created,authenticated⟩ := authenticated_of_entitled runAfter read started entitled
      exact ⟨user,created,same.symm,authenticated⟩

theorem trusted_of_run (run : Run (service settings) Anything (.idle .initial) config) : Trusted settings config := by
  refine run.invariant (Trusted settings) ⟨?_,?_⟩ fun config action after path trusted _ taken => trusted.next path taken
  · simp [Config.idle,World.initial,Database.empty]
  · simp [Config.idle]

theorem signed_for_user (run : Run (service settings) Anything (.idle .initial) config) {index : Nat} {id : ID}
    {email : String} {role : Role} {reply : Option (String × Int)}
    (member : ⟨index,.generateAccessToken id email role,reply⟩ ∈ config.state.history) :
    ∃ user, id = user.id ∧ email = user.email ∧ role = user.role ∧ Created config.state user ∧
      Authenticated settings config user := by
  obtain ⟨call,started,issues⟩ := (Talked.of_run run).event member program_entitled
  obtain ⟨user,⟨isID,isEmail,isRole⟩,entitled⟩ := issues _ (State.mem_exchanges.mpr member) rfl
  obtain ⟨created,authenticated⟩ := authenticated_of_entitled run (trusted_of_run run).read started entitled
  exact ⟨user,isID,isEmail,isRole,created,authenticated⟩

def Signs (exchanges : List (Exchange Statement Reply)) (outcome : Except Error TokenPair) : Prop :=
  ∀ pair, outcome = .ok pair → ∃ id email role ttl,
    ⟨.generateAccessToken id email role,some (pair.accessToken,ttl)⟩ ∈ exchanges

theorem Signs.failed {exchanges : List (Exchange Statement Reply)} {error : Error} : Signs exchanges (.error error) :=
  fun _ is => (by cases is)

theorem issueTokens_signs (user : User) (before : List (Exchange Statement Reply)) :
    (AuthService.issueTokens settings user).Yields fun exchanges outcome => Signs (before ++ exchanges) outcome := by
  intro access
  rcases access with _ | ⟨token,ttl⟩
  · exact .failed
  intro drawn
  cases drawn with
  | none => exact .failed
  | some refreshToken =>
    intro id now stored
    rcases stored with error | _
    · exact .failed
    · intro pair is
      cases is
      exact ⟨user.id,user.email,user.role,ttl,List.mem_append_right _ List.mem_cons_self⟩

theorem login_signs (email password : String) : (AuthService.login settings email password).Yields Signs := by
  intro found
  rcases found with error | user
  · exact .failed
  simp only [Program.done_bind]
  split
  · exact issueTokens_signs user [_]
  · exact .failed

theorem refreshToken_signs (raw : String) : (AuthService.refreshToken settings raw).Yields Signs := by
  intro found
  rcases found with error | token
  · exact .failed
  intro now
  simp only [Program.done_bind]
  split
  · exact .failed
  intro owner
  rcases owner with error | user
  · exact .failed
  intro deleted
  rcases deleted with error | _
  · exact .failed
  · exact issueTokens_signs user [_,_,_,_]

theorem program_signs (call : Call) : (program settings call).Yields fun exchanges value =>
    ∀ outcome, value = .pair outcome → Signs exchanges outcome := by
  have pair {task : Task (Except Error TokenPair)} (signs : task.Yields Signs) : (Result.pair <$> task).Yields
      fun exchanges value => ∀ outcome, value = .pair outcome → Signs exchanges outcome := by
    refine .map _ (signs.mono fun exchanges outcome signed other is => ?_)
    cases is
    exact signed
  cases call with
  | login email password => exact pair (login_signs email password)
  | refreshToken raw => exact pair (refreshToken_signs raw)
  | wait duration => exact fun _ _ is => (by cases is)
  | _ => exact .map _ ((Program.Yields.of_returns (.any _)).mono fun _ _ _ _ is => (by cases is))

theorem pair_signed (run : Run (service settings) Anything (.idle .initial) config) {index : Nat} {call : Call}
    {pair : TokenPair} (returned : config.returned index = some (call,.pair (.ok pair))) :
    ∃ id email role ttl, ⟨index,.generateAccessToken id email role,some (pair.accessToken,ttl)⟩ ∈ config.state.history := by
  obtain ⟨id,email,role,ttl,signed⟩ := (Talked.of_run run).yields returned (program_signs call) _ rfl pair rfl
  exact ⟨id,email,role,ttl,State.mem_exchanges.mp signed⟩

theorem signed_content (run : Run (service settings) Anything (.idle .initial) config) {index : Nat} {id : ID}
    {email token : String} {role : Role} {ttl : Int}
    (member : ⟨index,.generateAccessToken id email role,some (token,ttl)⟩ ∈ config.state.history) :
    ∃ time, token = settings.sign id email role time := by
  obtain ⟨middle,fault,_,_,reply⟩ := run.executed member
  cases fault with
  | none =>
    cases reply
    exact ⟨_,rfl⟩
  | fail | broken => cases reply

/-- However the calls interleave, fail or stop: a pair of tokens is issued to a user whom a call has stored, whose
password was presented to one, and who alone ever had the id in the token. -/
theorem tokens_issued_to_authenticated (settings : Settings) (config : Pool)
    (run : Run (service settings) Anything (.idle .initial) config) (index : Nat) (call : Call) (pair : TokenPair)
    (returned : config.returned index = some (call,.pair (.ok pair))) :
    ∃ user time, pair.accessToken = settings.sign user.id user.email user.role time ∧ Created config.state user ∧
      Account settings config user ∧ Authenticated settings config user ∧
      ∀ other, Created config.state other → other.id = user.id → other = user := by
  obtain ⟨id,email,role,ttl,signed⟩ := pair_signed run returned
  obtain ⟨time,content⟩ := signed_content run signed
  obtain ⟨user,rfl,rfl,rfl,created,authenticated⟩ := signed_for_user run signed
  obtain ⟨_,minted⟩ := minted_of_run run
  exact ⟨user,time,content,created,account_of_created run created,authenticated,
    fun other known same => minted.unique other user known created same⟩

/-- The token that a refreshed session was given. -/
theorem tokens_issued_to_authenticated_refreshed : ∃ config : Pool,
    Run (service sandbox) Anything (.idle .initial) config ∧
    config.returned 2 = some (.refreshToken "s",.pair (.ok ⟨"a","ss",900⟩)) ∧
    ∃ user time, "a" = sandbox.sign user.id user.email user.role time ∧ Created config.state user ∧
      Account sandbox config user ∧ Authenticated sandbox config user ∧
      ∀ other, Created config.state other → other.id = user.id → other = user := by
  obtain ⟨config,run,outcome⟩ := exists_run_of_replay (service sandbox) Anything
    (session ++ .start (.refreshToken "s") :: undisturbed 2 9) (.idle .initial)
    (fun config => config.returned 2 = some (.refreshToken "s",.pair (.ok ⟨"a","ss",900⟩))) (by decide +kernel)
  have returned := of_decide_eq_true outcome
  exact ⟨config,run,returned,tokens_issued_to_authenticated sandbox config run 2 _ _ returned⟩

end Runs
end Ticketbus.Auth
