import Ticketbus.Auth.Footprint
import Mathlib.Logic.Relation

/-! Refresh tokens and what they are exchanged for. Hashes stand for tokens: none is drawn
twice and none collide. A token is used up by the DELETE of its exchange, and what is
left of a login is one chain of exchanges whose last token alone can be stored. -/
namespace Ticketbus.Auth
open Ticketbus.Concurrency Ticketbus.Relational

def Settings.hashOf (settings : Settings) (number : Nat) : String :=
  settings.hashRefreshToken (settings.refreshToken number)

theorem Settings.hashOf_injective (settings : Settings) : Function.Injective settings.hashOf :=
  settings.hash_injective.comp settings.refreshToken_injective

def Consumed (state : View) (index : Nat) (hash : String) : Prop :=
  ⟨index,.deleteByHash hash,.ok ()⟩ ∈ state.history

inductive Right where
  | drawn (number : Nat)
  | read (hash : String)
  deriving DecidableEq

def Settled (settings : Settings) (state : View) (owned : Multiset Right) (hash : String) : Prop :=
  ∃ number, number < state.world.issued ∧ hash = settings.hashOf number ∧ .drawn number ∉ owned

structure Rotating (settings : Settings) (state : View) (owned : Multiset Right) : Prop where
  stored : ∀ token ∈ state.world.db.tokens.rows, Settled settings state owned token.tokenHash
  distinct : (state.world.db.tokens.rows.map RefreshToken.tokenHash).Nodup
  drawn : ∀ number, .drawn number ∈ owned → number < state.world.issued
  unshared : ∀ number, owned.count (.drawn number) ≤ 1
  gone : ∀ index hash, Consumed state index hash → Settled settings state owned hash ∧
    ∀ token ∈ state.world.db.tokens.rows, token.tokenHash ≠ hash
  once : ∀ left right hash, Consumed state left hash → Consumed state right hash → left = right
  read : ∀ hash, .read hash ∈ owned → Settled settings state owned hash ∧ ∀ index, ¬Consumed state index hash

namespace Rotating
variable {settings : Settings} {state after : View} {owned less : Multiset Right}

theorem settled_mono {hash : String} (settled : Settled settings state owned hash)
    (more : state.world.issued ≤ after.world.issued) (fewer : ∀ number, .drawn number ∈ less → .drawn number ∈ owned) :
    Settled settings after less hash := by
  obtain ⟨number,bound,same,stored⟩ := settled
  exact ⟨number,Nat.lt_of_lt_of_le bound more,same,fun again => stored (fewer number again)⟩

theorem shrink (rotating : Rotating settings state owned)
    (rows : after.world.db.tokens.rows.Sublist state.world.db.tokens.rows)
    (issued : state.world.issued ≤ after.world.issued)
    (history : ∀ index hash, Consumed after index hash → Consumed state index hash) (fewer : less ≤ owned) :
    Rotating settings after less := by
  have settled {hash : String} (was : Settled settings state owned hash) : Settled settings after less hash :=
    settled_mono was issued fun number inside => Multiset.mem_of_le fewer inside
  refine ⟨fun token member => settled (rotating.stored token (rows.subset member)),?_,?_,?_,?_,?_,?_⟩
  · exact rotating.distinct.sublist (rows.map _)
  · exact fun number inside => Nat.lt_of_lt_of_le (rotating.drawn number (Multiset.mem_of_le fewer inside)) issued
  · exact fun number => (Multiset.count_le_of_le _ fewer).trans (rotating.unshared number)
  · intro index hash consumed
    obtain ⟨was,absent⟩ := rotating.gone index hash (history index hash consumed)
    exact ⟨settled was,fun token member => absent token (rows.subset member)⟩
  · exact fun left right hash one other => rotating.once left right hash (history left hash one) (history right hash other)
  · intro hash inside
    obtain ⟨was,never⟩ := rotating.read hash (Multiset.mem_of_le fewer inside)
    exact ⟨settled was,fun index consumed => never index (history index hash consumed)⟩

theorem draw (rotating : Rotating settings state owned) (rows : after.world.db = state.world.db)
    (issued : after.world.issued = state.world.issued + 1)
    (history : ∀ index hash, Consumed after index hash → Consumed state index hash) :
    Rotating settings after (.drawn state.world.issued ::ₘ owned) := by
  have settled {hash : String} (was : Settled settings state owned hash) :
      Settled settings after (.drawn state.world.issued ::ₘ owned) hash := by
    obtain ⟨number,bound,same,stored⟩ := was
    refine ⟨number,by omega,same,fun again => ?_⟩
    rcases Multiset.mem_cons.mp again with new | old
    · cases new
      exact absurd bound (lt_irrefl _)
    · exact stored old
  have unowned : .drawn state.world.issued ∉ owned :=
    fun inside => absurd (rotating.drawn _ inside) (lt_irrefl _)
  refine ⟨fun token member => settled (rotating.stored token (rows ▸ member)),?_,?_,?_,?_,?_,?_⟩
  · rw [rows]
    exact rotating.distinct
  · intro number inside
    rcases Multiset.mem_cons.mp inside with new | old
    · cases new
      omega
    · exact Nat.lt_of_lt_of_le (rotating.drawn number old) (by omega)
  · intro number
    by_cases same : number = state.world.issued
    · rw [same,Multiset.count_cons_self,Multiset.count_eq_zero_of_notMem unowned]
    · rw [Multiset.count_cons_of_ne (by simpa using same)]
      exact rotating.unshared number
  · intro index hash consumed
    obtain ⟨was,absent⟩ := rotating.gone index hash (history index hash consumed)
    exact ⟨settled was,by rw [rows]; exact absent⟩
  · exact fun left right hash one other => rotating.once left right hash (history left hash one) (history right hash other)
  · intro hash inside
    rcases Multiset.mem_cons.mp inside with new | old
    · cases new
    · obtain ⟨was,never⟩ := rotating.read hash old
      exact ⟨settled was,fun index consumed => never index (history index hash consumed)⟩

theorem store {number : Nat} {token : RefreshToken}
    (rotating : Rotating settings state (.drawn number ::ₘ owned))
    (rows : after.world.db.tokens.rows = state.world.db.tokens.rows ++ [token])
    (hash : token.tokenHash = settings.hashOf number) (issued : after.world.issued = state.world.issued)
    (history : ∀ index hash, Consumed after index hash → Consumed state index hash) :
    Rotating settings after owned := by
  have settled {hash : String} (was : Settled settings state (.drawn number ::ₘ owned) hash) :
      Settled settings after owned hash :=
    settled_mono was (by omega) fun _ inside => Multiset.mem_cons_of_mem inside
  -- a number is drawn by one call only
  have unowned : .drawn number ∉ owned := by
    have count := rotating.unshared number
    rw [Multiset.count_cons_self] at count
    exact Multiset.count_eq_zero.mp (by omega)
  -- whatever has been settled has another number
  have other {hash : String} (was : Settled settings state (.drawn number ::ₘ owned) hash) :
      hash ≠ settings.hashOf number := by
    rintro rfl
    obtain ⟨old,_,same,stored⟩ := was
    rw [settings.hashOf_injective same] at stored
    exact stored (Multiset.mem_cons_self _ _)
  have mine : Settled settings after owned token.tokenHash :=
    ⟨number,by rw [issued]; exact rotating.drawn number (Multiset.mem_cons_self _ _),hash,unowned⟩
  refine ⟨fun stored member => ?_,?_,?_,?_,?_,?_,?_⟩
  · rw [rows] at member
    rcases List.mem_append.mp member with old | new
    · exact settled (rotating.stored stored old)
    · cases List.mem_singleton.mp new
      exact mine
  · rw [rows,List.map_append,List.nodup_append]
    refine ⟨rotating.distinct,List.nodup_singleton _,?_⟩
    rintro old member new isNew same
    obtain ⟨stored,inside,rfl⟩ := List.mem_map.mp member
    rw [List.map_singleton,List.mem_singleton] at isNew
    exact other (rotating.stored stored inside) (same.trans (isNew.trans hash))
  · exact fun drawn inside => by rw [issued]; exact rotating.drawn drawn (Multiset.mem_cons_of_mem inside)
  · exact fun drawn => (Multiset.count_le_count_cons _ _ _).trans (rotating.unshared drawn)
  · intro index gone consumed
    obtain ⟨was,absent⟩ := rotating.gone index gone (history index gone consumed)
    refine ⟨settled was,fun stored member => ?_⟩
    rw [rows] at member
    rcases List.mem_append.mp member with old | new
    · exact absent stored old
    · cases List.mem_singleton.mp new
      rw [hash]
      exact (other was).symm
  · exact fun left right hash one also => rotating.once left right hash (history left hash one) (history right hash also)
  · intro hash inside
    obtain ⟨was,never⟩ := rotating.read hash (Multiset.mem_cons_of_mem inside)
    exact ⟨settled was,fun index consumed => never index (history index hash consumed)⟩

theorem reads {token : RefreshToken} (rotating : Rotating settings state owned)
    (stored : token ∈ state.world.db.tokens.rows) :
    Rotating settings state (.read token.tokenHash ::ₘ owned) := by
  have settled {hash : String} (was : Settled settings state owned hash) :
      Settled settings state (.read token.tokenHash ::ₘ owned) hash := by
    refine settled_mono was (le_refl _) fun number inside => ?_
    rcases Multiset.mem_cons.mp inside with new | old
    · cases new
    · exact old
  refine ⟨fun other member => settled (rotating.stored other member),rotating.distinct,?_,?_,?_,rotating.once,?_⟩
  · intro number inside
    rcases Multiset.mem_cons.mp inside with new | old
    · cases new
    · exact rotating.drawn number old
  · intro number
    rw [Multiset.count_cons_of_ne (by simp)]
    exact rotating.unshared number
  · exact fun index hash consumed => ⟨settled (rotating.gone index hash consumed).1,(rotating.gone index hash consumed).2⟩
  · intro hash inside
    rcases Multiset.mem_cons.mp inside with new | old
    · cases new
      exact ⟨settled (rotating.stored token stored),fun index consumed => (rotating.gone index _ consumed).2 token stored rfl⟩
    · exact ⟨settled (rotating.read hash old).1,(rotating.read hash old).2⟩

theorem consume (index : Nat) {hash : String} (rotating : Rotating settings state (.read hash ::ₘ owned))
    (unread : .read hash ∉ owned)
    (rows : after.world.db.tokens.rows = state.world.db.tokens.rows.filter fun token => token.tokenHash ≠ hash)
    (issued : after.world.issued = state.world.issued)
    (history : ∀ other gone, Consumed after other gone → Consumed state other gone ∨ other = index ∧ gone = hash) :
    Rotating settings after owned := by
  have settled {hash' : String} (was : Settled settings state (.read hash ::ₘ owned) hash') :
      Settled settings after owned hash' :=
    settled_mono was (by omega) fun _ inside => Multiset.mem_cons_of_mem inside
  obtain ⟨mine,never⟩ := rotating.read hash (Multiset.mem_cons_self _ _)
  have part : after.world.db.tokens.rows.Sublist state.world.db.tokens.rows := by
    rw [rows]
    exact List.filter_sublist
  refine ⟨fun token member => settled (rotating.stored token (part.subset member)),?_,?_,?_,?_,?_,?_⟩
  · exact rotating.distinct.sublist (part.map _)
  · exact fun number inside => by rw [issued]; exact rotating.drawn number (Multiset.mem_cons_of_mem inside)
  · exact fun number => (Multiset.count_le_count_cons _ _ _).trans (rotating.unshared number)
  · intro other gone consumed
    rcases history other gone consumed with old | ⟨_,rfl⟩
    · obtain ⟨was,absent⟩ := rotating.gone other gone old
      exact ⟨settled was,fun token member => absent token (part.subset member)⟩
    · refine ⟨settled mine,fun token member => ?_⟩
      rw [rows] at member
      exact of_decide_eq_true (List.mem_filter.mp member).2
  · intro left right gone one also
    rcases history left gone one with old | ⟨rfl,rfl⟩ <;> rcases history right gone also with older | ⟨rfl,same⟩
    · exact rotating.once left right gone old older
    · subst same
      exact absurd old (never left)
    · exact absurd older (never right)
    · rfl
  · intro gone inside
    obtain ⟨was,before⟩ := rotating.read gone (Multiset.mem_cons_of_mem inside)
    refine ⟨settled was,fun other consumed => ?_⟩
    rcases history other gone consumed with old | ⟨_,rfl⟩
    · exact before other old
    · exact unread inside

end Rotating

def Statement.leavesTokens : Statement → Bool
  | .generateRefreshToken | .createToken _ | .deleteByHash _ => false
  | _ => true

theorem execute_leavesTokens (settings : Settings) {statement : Statement} (fault : Fault) (world : World)
    (leaves : statement.leavesTokens = true) :
    (execute settings statement fault world).2.db.tokens.rows.Sublist world.db.tokens.rows ∧
      (execute settings statement fault world).2.issued = world.issued := by
  cases statement with
  | newString | now | advance duration | hashPassword password => exact ⟨.refl _,rfl⟩
  | generateAccessToken userID email role => exact ⟨.refl _,rfl⟩
  | findByEmail email => simp [execute]
  | findUserByID id => simp [execute]
  | findByHash hash => simp [execute]
  | createUser user =>
    rcases write_cases World.put fault world (world.db.createUser user) with ⟨_,db,_,ok,result⟩ | ⟨_,result⟩
    · rw [show execute settings (.createUser user) fault world = _ from result]
      unfold Database.createUser at ok
      split at ok
      · split at ok
        · cases ok
          exact ⟨.refl _,rfl⟩
        · cases ok
      · cases ok
    · rw [show execute settings (.createUser user) fault world = _ from result]
      exact ⟨.refl _,rfl⟩
  | deleteUserByID id =>
    rcases write_cases World.put fault world (.ok ((),world.db.removeUser id)) with ⟨_,db,_,ok,result⟩ | ⟨_,result⟩
    · rw [show execute settings (.deleteUserByID id) fault world = _ from result]
      cases ok
      exact ⟨List.filter_sublist,rfl⟩
    · rw [show execute settings (.deleteUserByID id) fault world = _ from result]
      exact ⟨.refl _,rfl⟩
  | generateRefreshToken | createToken | deleteByHash => cases leaves

theorem Database.findByHash_ok {db : Database} {hash : String} {token : RefreshToken}
    (ok : db.findByHash hash = .ok token) : token ∈ db.tokens.rows ∧ token.tokenHash = hash := by
  unfold Database.findByHash at ok
  split at ok
  · cases ok
  · rename_i found
    cases ok
    exact ⟨List.mem_of_find?_eq_some found,by simpa using List.find?_some found⟩

theorem Database.createToken_ok {db after : Database} {token : RefreshToken}
    (ok : db.createToken token = .ok ((),after)) : after.tokens.rows = db.tokens.rows ++ [token] := by
  unfold Database.createToken at ok
  split at ok
  · split at ok
    · cases ok
      rfl
    · cases ok
  · cases ok

def PastLookup (settings : Settings) (call : Call) (own : Multiset Right) (statement : Statement) : Prop :=
  ∀ hash, .read hash ∈ own → (∃ raw, call = .refreshToken raw ∧ settings.hashRefreshToken raw = hash) ∧
    ∀ other, statement ≠ .findByHash other

namespace PastLookup
variable {settings : Settings} {call : Call} {statement : Statement}

theorem nothing : PastLookup settings call 0 statement := fun _ none => absurd none (Multiset.notMem_zero _)

theorem drawn {number : Nat} : PastLookup settings call {.drawn number} statement := by
  intro hash inside
  rw [Multiset.mem_singleton] at inside
  cases inside

theorem read {raw : String} (isCall : call = .refreshToken raw) (unlike : ∀ other, statement ≠ .findByHash other) :
    PastLookup settings call {.read (settings.hashRefreshToken raw)} statement := by
  intro hash inside
  rw [Multiset.mem_singleton] at inside
  cases inside
  exact ⟨⟨raw,isCall,rfl⟩,unlike⟩

end PastLookup

def rotation (settings : Settings) : Protocol Statement Reply World Fault Call (Multiset Right) where
  evolves before after := before.history ⊆ after.history
  evolves_refl _ _ := id
  evolves_trans _ _ _ before after _ member := after (before member)
  invariant := Rotating settings
  permits _ _ _ frame statement _ := ∀ hash, statement = .deleteByHash hash → .read hash ∉ frame
  fits index call state own statement := PastLookup settings call own statement ∧
    ∀ token, statement = .createToken token → ∀ raw, call = .refreshToken raw →
      Consumed state index (settings.hashRefreshToken raw)

section Programs
variable {settings : Settings} {index : Nat} {call : Call} {α β : Type} {state : View} {own : Multiset Right}

private theorem consumed_other {statement : Statement} {fault : Fault} {other : Nat} {hash : String}
    (unlike : ∀ hash, statement ≠ .deleteByHash hash)
    (consumed : Consumed (state.after (service settings) index statement fault) other hash) :
    Consumed state other hash := by
  rcases List.mem_cons.mp consumed with new | old
  · have same := congrArg Event.op new
    exact absurd same.symm (unlike hash)
  · exact old

private theorem history_grows {statement : Statement} {fault : Fault} :
    state.history ⊆ (state.after (service settings) index statement fault).history :=
  fun _ member => List.mem_cons_of_mem _ member

abbrev Rotates (settings : Settings) (index : Nat) (call : Call) (post : α → View → Multiset Right → Prop)
    (program : Task α) (state : View) (own : Multiset Right) : Prop :=
  Holds (service settings) (rotation settings) index call post program state own

namespace Rotates
variable {post : α → View → Multiset Right → Prop}

theorem perform {statement : Statement} {next : Reply statement → Task α}
    (fits : ∀ later : View, state.history ⊆ later.history → (rotation settings).fits index call later own statement)
    (steps : ∀ (later : View) (fault : Fault) (frame : Multiset Right), state.history ⊆ later.history →
      Rotating settings later (own + frame) → (∀ hash, statement = .deleteByHash hash → .read hash ∉ frame) →
      ∃ kept, Rotating settings (later.after (service settings) index statement fault) (kept + frame) ∧
        Rotates settings index call post (next (execute settings statement fault later.world).1)
          (later.after (service settings) index statement fault) kept) :
    Rotates settings index call post (.perform statement next) state own :=
  fun later before frame inv =>
    ⟨fits later before,fun fault permitted => ⟨history_grows,steps later fault frame before inv permitted⟩⟩

private theorem leaves_kept {statement : Statement} {fault : Fault} {owned less : Multiset Right}
    (leaves : statement.leavesTokens = true) (inv : Rotating settings state owned) (fewer : less ≤ owned) :
    Rotating settings (state.after (service settings) index statement fault) less := by
  obtain ⟨rows,issued⟩ := execute_leavesTokens settings fault state.world leaves
  refine inv.shrink rows issued.ge (fun other hash => consumed_other fun hash is => ?_) fewer
  rw [is] at leaves
  cases leaves

private theorem fits_leaves {statement : Statement} (leaves : statement.leavesTokens = true)
    (reading : PastLookup settings call own statement) : (rotation settings).fits index call state own statement := by
  refine ⟨reading,fun token is => ?_⟩
  rw [is] at leaves
  cases leaves

theorem pass {statement : Statement} {next : Reply statement → Task α} (leaves : statement.leavesTokens = true)
    (reading : PastLookup settings call own statement)
    (continues : ∀ (later : View) (fault : Fault), state.history ⊆ later.history →
      ∃ kept ≤ own, Rotates settings index call post (next (execute settings statement fault later.world).1)
        (later.after (service settings) index statement fault) kept) :
    Rotates settings index call post (.perform statement next) state own := by
  refine perform (fun _ _ => fits_leaves leaves reading) fun later fault frame before inv _ => ?_
  obtain ⟨kept,fewer,rest⟩ := continues later fault before
  exact ⟨kept,leaves_kept leaves inv (add_le_add_left fewer frame),rest⟩

theorem of_issues {program : Task α} (issues : program.Issues fun statement => statement.leavesTokens = true)
    (returns : ∀ value later, post value later 0) : Rotates settings index call post program state 0 :=
  Holds.of_issues issues (fun _ leaves _ _ inv =>
    ⟨fits_leaves leaves .nothing,
      fun _ _ => ⟨history_grows,leaves_kept leaves inv (le_refl _)⟩⟩) returns

theorem findByHash {raw : String} {next : Except DbError RefreshToken → Task α}
    (failed : ∀ error later, Rotates settings index call post (next (.error error)) later 0)
    (found : ∀ token later, Rotates settings index call post (next (.ok token)) later
      {.read (settings.hashRefreshToken raw)}) :
    Rotates settings index call post (.perform (.findByHash (settings.hashRefreshToken raw)) next) state 0 := by
  refine perform (fun _ _ => fits_leaves rfl .nothing) fun later fault frame before inv _ => ?_
  have kept : Rotating settings (later.after (service settings) index
    (.findByHash (settings.hashRefreshToken raw)) fault) (0 + frame) := leaves_kept rfl inv (le_refl _)
  cases reply : (execute settings (.findByHash (settings.hashRefreshToken raw)) fault later.world).1 with
  | error error => exact ⟨0,kept,failed error _⟩
  | ok token =>
    obtain ⟨stored,same⟩ := Database.findByHash_ok (query_ok reply)
    have unchanged : (later.after (service settings) index (.findByHash (settings.hashRefreshToken raw)) fault).world =
      later.world := query_world ..
    rw [← unchanged] at stored
    have read := kept.reads stored
    rw [same,zero_add,← Multiset.singleton_add] at read
    exact ⟨_,read,found token _⟩

theorem deleteByHash {raw : String} {next : Except DbError Unit → Task α} (isCall : call = .refreshToken raw)
    (failed : ∀ error later, Rotates settings index call post (next (.error error)) later 0)
    (deleted : ∀ later, Consumed later index (settings.hashRefreshToken raw) →
      Rotates settings index call post (next (.ok ())) later 0) :
    Rotates settings index call post (.perform (.deleteByHash (settings.hashRefreshToken raw)) next) state
      {.read (settings.hashRefreshToken raw)} := by
  refine perform (fun later _ => ⟨.read isCall (by simp),by simp⟩) fun later fault frame before inv unread => ?_
  rw [Multiset.singleton_add] at inv
  cases reply : (execute settings (.deleteByHash (settings.hashRefreshToken raw)) fault later.world).1 with
  | error error =>
    have same : (later.after (service settings) index (.deleteByHash (settings.hashRefreshToken raw)) fault).world =
      later.world := write_error reply
    refine ⟨0,inv.shrink (by rw [same]) (by rw [same]) (fun other gone consumed => ?_)
      (by rw [zero_add]; exact Multiset.le_cons_self _ _),failed error _⟩
    rcases List.mem_cons.mp consumed with new | old
    · cases new.trans (congrArg (Event.mk index _) reply)
    · exact old
  | ok value =>
    obtain ⟨db,ok,written⟩ := write_ok reply
    cases ok
    have same : (later.after (service settings) index (.deleteByHash (settings.hashRefreshToken raw)) fault).world =
      {later.world with db := later.world.db.deleteByHash (settings.hashRefreshToken raw)} := written
    refine ⟨0,?_,deleted _ ?_⟩
    · rw [zero_add]
      refine inv.consume index (unread _ rfl) (by rw [same]; rfl) (by rw [same]) fun other gone consumed => ?_
      rcases List.mem_cons.mp consumed with new | old
      · exact .inr ⟨congrArg Event.thread new,Statement.deleteByHash.inj (congrArg Event.op new)⟩
      · exact .inl old
    · unfold Consumed
      rw [State.after_history,← reply]
      exact List.mem_cons_self

theorem generateRefreshToken {next : Option String → Task α}
    (failed : ∀ later, state.history ⊆ later.history → Rotates settings index call post (next none) later 0)
    (drawn : ∀ number later, state.history ⊆ later.history →
      Rotates settings index call post (next (some (settings.refreshToken number))) later {.drawn number}) :
    Rotates settings index call post (.perform .generateRefreshToken next) state 0 := by
  refine perform (fun later _ => ⟨.nothing,by simp⟩) fun later fault frame before inv _ => ?_
  have history (other : Nat) (hash : String) (consumed : Consumed (later.after (service settings) index
    .generateRefreshToken fault) other hash) : Consumed later other hash := consumed_other (by simp) consumed
  have soFar : state.history ⊆ (later.after (service settings) index .generateRefreshToken fault).history :=
    fun _ member => history_grows (before member)
  cases fault with
  | none =>
    have rotating : Rotating settings (later.after (service settings) index .generateRefreshToken .none) _ :=
      inv.draw rfl rfl history
    rw [zero_add,← Multiset.singleton_add] at rotating
    exact ⟨_,rotating,drawn _ _ soFar⟩
  | fail => exact ⟨0,inv.shrink (.refl _) (Nat.le_succ _) history (le_refl _),failed _ soFar⟩
  | broken count => exact ⟨0,inv.shrink (.refl _) (Nat.le_succ _) history (le_refl _),failed _ soFar⟩

theorem createToken {number : Nat} {token : RefreshToken} {next : Except DbError Unit → Task α}
    (hash : token.tokenHash = settings.hashOf number)
    (known : ∀ raw, call = .refreshToken raw → Consumed state index (settings.hashRefreshToken raw))
    (failed : ∀ error later, Rotates settings index call post (next (.error error)) later 0)
    (created : ∀ later, ⟨index,.createToken token,.ok ()⟩ ∈ later.history →
      Rotates settings index call post (next (.ok ())) later 0) :
    Rotates settings index call post (.perform (.createToken token) next) state {.drawn number} := by
  refine perform (fun later before => ⟨.drawn,fun _ _ raw is => before (known raw is)⟩)
    fun later fault frame before inv _ => ?_
  have history (other : Nat) (hash : String) (consumed : Consumed (later.after (service settings) index
    (.createToken token) fault) other hash) : Consumed later other hash := consumed_other (by simp) consumed
  rw [Multiset.singleton_add] at inv
  cases reply : (execute settings (.createToken token) fault later.world).1 with
  | error error =>
    have same : (later.after (service settings) index (.createToken token) fault).world = later.world :=
      write_error reply
    refine ⟨0,inv.shrink (by rw [same]) (by rw [same]) history ?_,failed error _⟩
    rw [zero_add]
    exact Multiset.le_cons_self _ _
  | ok value =>
    obtain ⟨db,ok,written⟩ := write_ok reply
    have same : (later.after (service settings) index (.createToken token) fault).world =
      {later.world with db := db} := written
    refine ⟨0,?_,created _ ?_⟩
    · rw [zero_add]
      refine inv.store ?_ hash (by rw [same]) history
      rw [same]
      exact Database.createToken_ok ok
    · rw [State.after_history,← reply]
      exact List.mem_cons_self

end Rotates

def Stores (index : Nat) (outcome : Except Error TokenPair) (state : View) (own : Multiset Right) : Prop :=
  own = 0 ∧ ∀ pair, outcome = .ok pair → ∃ token, ⟨index,.createToken token,.ok ()⟩ ∈ state.history

private theorem Stores.failed {error : Error} {later : View} : Stores index (.error error) later 0 :=
  ⟨rfl,fun _ is => (nomatch is)⟩

theorem issueTokens_rotates (user : User)
    (known : ∀ raw, call = .refreshToken raw → Consumed state index (settings.hashRefreshToken raw)) :
    Rotates settings index call (Stores index) (AuthService.issueTokens settings user) state 0 := by
  refine Rotates.pass rfl .nothing fun first fault before => ⟨0,le_refl _,?_⟩
  rcases (execute settings (.generateAccessToken user.id user.email user.role) fault first.world).1 with _ | ⟨access,ttl⟩
  · exact .done fun _ _ => .failed
  refine Rotates.generateRefreshToken (fun _ _ => .done fun _ _ => .failed) fun number second between => ?_
  refine Rotates.pass rfl .drawn fun third again after => ⟨_,le_refl _,?_⟩
  refine Rotates.pass rfl .drawn fun fourth once later => ⟨_,le_refl _,?_⟩
  refine Rotates.createToken rfl (fun raw is => ?_) (fun _ _ => .done fun _ _ => .failed) fun last stored => ?_
  · -- what was deleted before stays on record
    exact history_grows (later (history_grows (after (between (history_grows (before (known raw is)))))))
  · exact .done fun final grown => ⟨rfl,fun _ _ => ⟨_,grown stored⟩⟩

theorem refreshToken_rotates (raw : String) :
    Rotates settings index (.refreshToken raw) (Stores index) (AuthService.refreshToken settings raw) state 0 := by
  refine Rotates.findByHash (fun _ _ => .done fun _ _ => .failed) fun token first => ?_
  refine Rotates.pass rfl (.read rfl (by simp)) fun second fault _ => ?_
  simp only [Program.done_bind]
  split
  · exact ⟨0,Multiset.zero_le _,.done fun _ _ => .failed⟩
  refine ⟨_,le_refl _,.pass rfl (.read rfl (by simp)) fun third again _ => ?_⟩
  rcases (execute settings (.findUserByID token.userID) again third.world).1 with error | user
  · exact ⟨0,Multiset.zero_le _,.done fun _ _ => .failed⟩
  refine ⟨_,le_refl _,.deleteByHash rfl (fun _ _ => .done fun _ _ => .failed) fun fourth consumed => ?_⟩
  refine issueTokens_rotates user fun other is => ?_
  cases is
  exact consumed

theorem login_rotates (email password : String) :
    Rotates settings index (.login email password) (Stores index) (AuthService.login settings email password) state 0 := by
  refine Rotates.pass rfl .nothing fun first fault _ => ⟨0,le_refl _,?_⟩
  rcases (execute settings (.findByEmail email) fault first.world).1 with error | user
  · exact .done fun _ _ => .failed
  simp only [Program.done_bind]
  split
  · exact issueTokens_rotates user (by simp)
  · exact .done fun _ _ => .failed

theorem Footprint.leavesTokens {statement : Statement} (inside : Footprint call statement)
    (other : call.issuesTokens = false) : statement.leavesTokens = true := by
  cases statement <;> first | rfl | cases other.symm.trans inside

def Returned (index : Nat) (value : Result) (state : View) (own : Multiset Right) : Prop :=
  own = 0 ∧ ∀ pair, value = .pair (.ok pair) → ∃ token, ⟨index,.createToken token,.ok ()⟩ ∈ state.history

private theorem Rotates.pair {program : Task (Except Error TokenPair)}
    (rotates : Rotates settings index call (Stores index) program state own) :
    Rotates settings index call (Returned index) (.pair <$> program) state own := by
  refine .bind (Holds.consequence rotates fun outcome later own ⟨empty,stores⟩ => Holds.done fun final after => ?_)
  refine ⟨empty,fun pair is => ?_⟩
  obtain ⟨token,stored⟩ := stores pair (Result.pair.inj is)
  exact ⟨token,after stored⟩

private theorem Rotates.silent {program : Task α} (f : α → Result) (silent : ∀ value pair, f value ≠ .pair (.ok pair))
    (other : call.issuesTokens = false) (issues : (f <$> program).Issues (Footprint call)) :
    Rotates settings index call (Returned index) (f <$> program) state 0 :=
  .bind (Rotates.of_issues (issues.of_bind.mono fun _ inside => inside.leavesTokens other) fun value _ =>
    Holds.done fun _ _ => ⟨rfl,fun pair is => absurd is (silent value pair)⟩)

theorem program_rotates (call : Call) :
    Rotates settings index call (Returned index) (program settings call) state 0 := by
  have issues := program_issues settings call
  cases call with
  | login email password => exact .pair (login_rotates email password)
  | refreshToken raw => exact .pair (refreshToken_rotates raw)
  | wait duration => exact Rotates.pass rfl .nothing fun _ _ _ => ⟨0,le_refl _,.done fun _ _ => ⟨rfl,by simp⟩⟩
  | _ => exact .silent _ (by simp) rfl issues

end Programs

def exchanging (settings : Settings) (hash : String) (thread : Thread Statement Reply Call Result) : Bool :=
  match thread.call,thread.head with
  | .refreshToken _,some (.findByHash _) => false
  | .refreshToken raw,some _ => settings.hashRefreshToken raw = hash
  | _,_ => false

/-- A token is deleted only while no other exchange of it is in progress that is past its lookup. -/
def exchangesAlone (settings : Settings) (config : Pool) (index : Nat) : Statement → Fault → Bool
  | .deleteByHash hash,_ => (config.threads.eraseIdx index).all fun thread => !exchanging settings hash thread
  | _,_ => true

theorem rotation_obeyed (settings : Settings) :
    Obeys (service settings) (rotation settings) (fun index _ => Returned index)
      (Stepwise (exchangesAlone settings)) (.idle .initial) where
  starts _ call _ _ := program_rotates call
  steps config index fault call statement next own others run permitted found _ fitting := by
    rintro hash rfl member
    have alone := permitted.meets found
    simp only [exchangesAlone,List.all_eq_true] at alone
    obtain ⟨other,inside,holds⟩ := mem_sum_tokens member
    obtain ⟨position,⟨otherCall,program⟩,distinct,isThere,fits⟩ := fitting other inside
    have quiet := alone _ (List.mem_eraseIdx_iff_getElem?.mpr ⟨position,distinct,isThere⟩)
    -- only an exchange past its lookup owns what it has read
    match program,fits with
    | none,fits =>
      rw [show other = 0 from fits] at holds
      exact Multiset.notMem_zero _ holds
    | some (.done value),fits =>
      rw [fits.1] at holds
      exact Multiset.notMem_zero _ holds
    | some (.perform op next),fits =>
      obtain ⟨⟨raw,rfl,same⟩,past⟩ := fits.1 hash holds
      have busy : exchanging settings hash ⟨.refreshToken raw,some (.perform op next)⟩ = true := by
        unfold exchanging
        simp only [Thread.head,Option.bind_some,Program.head_perform]
        cases op with
        | findByHash other => exact absurd rfl (past other)
        | _ => exact decide_eq_true same
      rw [busy] at quiet
      cases quiet
  stops config index thread own frame _ _ _ _ rotating :=
    rotating.shrink (.refl _) (le_refl _) (fun _ _ => id) (Multiset.le_add_left ..)

section Runs
variable {settings : Settings} {config : Pool}

theorem rotation_holds (run : Run (service settings) (Stepwise (exchangesAlone settings)) (.idle .initial) config) :
    PoolHolds (service settings) (rotation settings) (fun index _ => Returned index) config := by
  have initially : Rotating settings ⟨World.initial,[]⟩ 0 := by
    refine ⟨?_,List.nodup_nil,?_,?_,?_,?_,?_⟩
    all_goals simp [Consumed,World.initial,Database.empty]
  exact (PoolHolds.idle World.initial initially).run (rotation_obeyed settings) run

private theorem issueTokens_once (user : User) :
    (AuthService.issueTokens settings user).Once fun statement => ∃ token, statement = .createToken token := by
  refine .inl ⟨by simp,fun access => ?_⟩
  rcases access with _ | ⟨token,ttl⟩
  · trivial
  refine .inl ⟨by simp,fun drawn => ?_⟩
  cases drawn with
  | none => trivial
  | some refreshToken =>
    refine .inl ⟨by simp,fun id => .inl ⟨by simp,fun now => .inr fun created => ?_⟩⟩
    cases created <;> trivial

theorem program_stores_once (settings : Settings) (call : Call) :
    (program settings call).Once fun statement => ∃ token, statement = .createToken token := by
  have issues := program_issues settings call
  cases call with
  | login email password =>
    refine .map _ (.inl ⟨by simp,fun found => ?_⟩)
    rcases found with error | user
    · trivial
    simp only [Program.done_bind]
    split
    · exact issueTokens_once user
    · trivial
  | refreshToken raw =>
    refine .map _ (.inl ⟨by simp,fun found => ?_⟩)
    rcases found with error | token
    · trivial
    refine .inl ⟨by simp,fun now => ?_⟩
    simp only [Program.done_bind]
    split
    · trivial
    refine .inl ⟨by simp,fun owner => ?_⟩
    rcases owner with error | user
    · trivial
    refine .inl ⟨by simp,fun deleted => ?_⟩
    rcases deleted with error | _
    · trivial
    · exact issueTokens_once user
  | _ =>
    refine .of_issues (issues.mono fun statement inside => ?_)
    rintro ⟨token,rfl⟩
    cases inside

def Stored (config : Pool) (index : Nat) (hash : String) : Prop :=
  ∃ token, token.tokenHash = hash ∧ ⟨index,.createToken token,.ok ()⟩ ∈ config.state.history

def Exchanged (settings : Settings) (config : Pool) (hash next : String) : Prop :=
  ∃ index raw, config.calls[index]? = some (.refreshToken raw) ∧ settings.hashRefreshToken raw = hash ∧
    Stored config index next

def Descends (settings : Settings) (config : Pool) (index : Nat) (hash : String) : Prop :=
  ∃ first email password, config.calls[index]? = some (.login email password) ∧ Stored config index first ∧
    Relation.ReflTransGen (Exchanged settings config) first hash

/-- No token is exchanged twice, and of each login at most one token is stored. -/
def OneTime (settings : Settings) (config : Pool) : Prop :=
  (∀ raw left right pair other, config.returned left = some (.refreshToken raw,.pair (.ok pair)) →
    config.returned right = some (.refreshToken raw,.pair (.ok other)) → left = right) ∧
  ∀ index, ∀ token ∈ config.state.world.db.tokens.rows, ∀ other ∈ config.state.world.db.tokens.rows,
    Descends settings config index token.tokenHash → Descends settings config index other.tokenHash → token = other

variable (run : Run (service settings) (Stepwise (exchangesAlone settings)) (.idle .initial) config)
include run

theorem stored_once {index : Nat} {hash other : String} (stored : Stored config index hash)
    (also : Stored config index other) : hash = other := by
  obtain ⟨token,rfl,recorded⟩ := stored
  obtain ⟨second,rfl,again⟩ := also
  have same := (Run.once (program_stores_once settings) run).single _ recorded _ again ⟨token,rfl⟩ ⟨second,rfl⟩ rfl
  rw [Statement.createToken.inj (congrArg Event.op same)]

theorem exchange_consumes {index : Nat} {raw hash : String} (isCall : config.calls[index]? = some (.refreshToken raw))
    (stored : Stored config index hash) : Consumed config.state index (settings.hashRefreshToken raw) := by
  refine Path.invariant (fun config : Pool => ∀ index raw hash, config.calls[index]? = some (.refreshToken raw) →
    Stored config index hash → Consumed config.state index (settings.hashRefreshToken raw)) ?_ ?_ run
    index raw hash isCall stored
  · rintro index raw hash _ ⟨token,_,recorded⟩
    cases recorded
  intro config action after run before _ taken index raw hash isCall stored
  cases action with
  | start call =>
    cases taken
    refine before index raw hash ?_ stored
    obtain ⟨token,_,recorded⟩ := stored
    obtain ⟨thread,found,_⟩ := (Run.once (program_stores_once settings) run).rest _ recorded ⟨token,rfl⟩
    have bound : index < config.threads.length := (List.getElem?_eq_some_iff.mp found).1
    rw [Config.calls,List.getElem?_map,List.getElem?_append_left bound] at isCall
    rw [Config.calls,List.getElem?_map]
    exact isCall
  | step position fault =>
    obtain ⟨call,statement,next,found,rfl⟩ := Config.next_step _ _ _ _ _ taken
    have same : config.calls[index]? = some (.refreshToken raw) := (Config.calls_set found _) ▸ isCall
    obtain ⟨token,named,recorded⟩ := stored
    rcases List.mem_cons.mp recorded with new | old
    · have thread : index = position := congrArg Event.thread new
      have issued : statement = .createToken token := (congrArg Event.op new).symm
      subst thread issued
      obtain ⟨_,_,fits,_⟩ := (rotation_holds run).thread_fits index _ found
      have caller := (Config.callAt_thread found).symm.trans same
      exact List.mem_cons_of_mem _ (fits.2 token rfl raw (Option.some.inj caller))
    · exact List.mem_cons_of_mem _ (before index raw hash same ⟨token,named,old⟩)
  | stop position =>
    obtain ⟨call,program,found,rfl⟩ := Config.next_stop _ _ _ _ taken
    exact before index raw hash ((Config.calls_set found _) ▸ isCall) stored

theorem exchanged_unique : Relator.RightUnique (Exchanged settings config) := by
  rintro hash first second ⟨left,raw,isLeft,rfl,one⟩ ⟨right,other,isRight,same,two⟩
  obtain ⟨_,rotating⟩ := (rotation_holds run).invariant_holds
  have consumed := exchange_consumes run isLeft one
  have again := exchange_consumes run isRight two
  rw [same] at again
  cases rotating.once left right _ consumed again
  exact stored_once run one two

theorem exchanged_gone {hash next : String} (exchanged : Exchanged settings config hash next)
    {token : RefreshToken} (stored : token ∈ config.state.world.db.tokens.rows) : token.tokenHash ≠ hash := by
  obtain ⟨index,raw,isCall,rfl,one⟩ := exchanged
  obtain ⟨_,rotating⟩ := (rotation_holds run).invariant_holds
  exact (rotating.gone index _ (exchange_consumes run isCall one)).2 token stored

theorem chain_ends {token : RefreshToken} {hash : String} (stored : token ∈ config.state.world.db.tokens.rows)
    (chain : Relation.ReflTransGen (Exchanged settings config) token.tokenHash hash) : token.tokenHash = hash := by
  rcases Relation.ReflTransGen.cases_head chain with same | ⟨next,exchanged,_⟩
  · exact same
  · exact absurd rfl (exchanged_gone run exchanged stored)

end Runs

/-- In every run in which a token is deleted only while no other exchange of it is past
its lookup: no token is exchanged twice, and at most one descendant of a login is stored. -/
theorem refresh_tokens_one_time (settings : Settings) (config : Pool)
    (run : Run (service settings) (Stepwise (exchangesAlone settings)) (.idle .initial) config) :
    OneTime settings config := by
  have holds := rotation_holds run
  obtain ⟨_,rotating⟩ := holds.invariant_holds
  refine ⟨fun raw left right pair other isLeft isRight => ?_,fun index token inToken other inOther one two => ?_⟩
  · have deletes {index : Nat} {pair : TokenPair}
        (returned : config.returned index = some (.refreshToken raw,.pair (.ok pair))) :
        Consumed config.state index (settings.hashRefreshToken raw) := by
      have thread := Config.returned_thread returned
      obtain ⟨_,_,⟨_,stores⟩,_⟩ := holds.thread_fits index _ thread
      obtain ⟨token,stored⟩ := stores pair rfl
      exact exchange_consumes run (Config.callAt_thread thread) ⟨token,rfl,stored⟩
    exact rotating.once left right _ (deletes isLeft) (deletes isRight)
  · obtain ⟨first,_,_,_,issued,chain⟩ := one
    obtain ⟨second,_,_,_,also,branch⟩ := two
    cases stored_once run issued also
    have same : token.tokenHash = other.tokenHash := by
      rcases Relation.ReflTransGen.total_of_right_unique (exchanged_unique run) chain branch with down | up
      · exact chain_ends run inToken down
      · exact (chain_ends run inOther up).symm
    exact List.inj_on_of_nodup_map rotating.distinct inToken inOther same

/-- Tokens that count their letters and hashes that are the tokens themselves. -/
def sandbox : Settings where
  accessTokenTTL := 900000000000
  refreshTokenTTL := 604800000000000
  hash _ password := some password
  verify password hash := password = hash
  sign _ email _ _ := email
  refreshToken number := String.ofList (List.replicate (number + 1) 's')
  hashRefreshToken token := token
  refreshToken_injective left right same := by
    have letters := congrArg (fun token : String => token.toList.length) same
    simpa using letters
  hash_injective _ _ same := same

def undisturbed (index count : Nat) : List Step := List.replicate count (.step index .none)

def session : List Step :=
  .start (.register "a" "p" "n" .customer) :: undisturbed 0 4 ++ .start (.login "a" "p") :: undisturbed 1 6

/-- The login's token is exchanged. -/
theorem refresh_tokens_one_time_exchanged : ∃ config : Pool,
    Run (service sandbox) (Stepwise (exchangesAlone sandbox)) (.idle .initial) config ∧
    config.returned 2 = some (.refreshToken "s",.pair (.ok ⟨"a","ss",900⟩)) ∧
    config.state.world.db.tokens.rows.map RefreshToken.tokenHash = ["ss"] ∧ OneTime sandbox config := by
  obtain ⟨config,run,outcome⟩ := exists_run_of_replay (service sandbox) (Stepwise (exchangesAlone sandbox))
    (session ++ .start (.refreshToken "s") :: undisturbed 2 9) (.idle .initial)
    (fun config => config.returned 2 = some (.refreshToken "s",.pair (.ok ⟨"a","ss",900⟩)) &&
      config.state.world.db.tokens.rows.map RefreshToken.tokenHash = ["ss"]) (by decide +kernel)
  simp only [Bool.and_eq_true,decide_eq_true_eq] at outcome
  exact ⟨config,run,outcome.1,outcome.2,refresh_tokens_one_time sandbox config run⟩

/-- Two exchanges of one token that both look it up before either deletes it. -/
theorem refresh_token_exchanged_twice : ¬∀ (settings : Settings) (config : Pool),
    Run (service settings) Anything (.idle .initial) config → OneTime settings config := by
  intro oneTime
  obtain ⟨config,run,outcome⟩ := exists_run_of_replay (service sandbox) Anything
    (session ++ .start (.refreshToken "s") :: undisturbed 2 3 ++ .start (.refreshToken "s") :: undisturbed 3 3 ++
      undisturbed 2 6 ++ undisturbed 3 6) (.idle .initial)
    (fun config => config.returned 2 = some (.refreshToken "s",.pair (.ok ⟨"a","ss",900⟩)) &&
      config.returned 3 = some (.refreshToken "s",.pair (.ok ⟨"a","sss",900⟩))) (by decide +kernel)
  simp only [Bool.and_eq_true,decide_eq_true_eq] at outcome
  have same := (oneTime sandbox config run).1 "s" 2 3 _ _ outcome.1 outcome.2
  cases same

end Ticketbus.Auth
