import Ticketbus.Auth.AuthService

/-! Which statements each call of the auth service can issue, whatever it is answered. -/
namespace Ticketbus.Auth
open Ticketbus.Concurrency Program

def Call.createsUsers : Call → Bool
  | .register .. | .registerOrganizer .. | .seedAdmins _ => true
  | _ => false

def Call.issuesTokens : Call → Bool
  | .login .. | .refreshToken _ => true
  | _ => false

def Footprint (call : Call) : Statement → Prop
  | .hashPassword _ | .createUser _ => call.createsUsers = true
  | .generateAccessToken .. | .generateRefreshToken | .createToken _ | .deleteByHash _ => call.issuesTokens = true
  | _ => True

theorem issueTokens_issues {permitted : Statement → Prop} {settings : Settings} {user : User}
    (access : permitted (.generateAccessToken user.id user.email user.role)) (refresh : permitted .generateRefreshToken)
    (newString : permitted .newString) (now : permitted .now)
    (create : ∀ token : RefreshToken, token.userID = user.id → permitted (.createToken token)) :
    (AuthService.issueTokens settings user).Issues permitted := by
  refine ⟨access,fun signed => ?_⟩
  rcases signed with _ | ⟨token,ttl⟩
  · trivial
  refine ⟨refresh,fun drawn => ?_⟩
  cases drawn with
  | none => trivial
  | some refreshToken =>
    refine ⟨newString,fun id => ⟨now,fun now => ⟨create _ rfl,fun stored => ?_⟩⟩⟩
    cases stored <;> trivial

section Calls
variable {settings : Settings} {call : Call}

private theorem issues_tokens (issues : call.issuesTokens = true) (user : User) :
    (AuthService.issueTokens settings user).Issues (Footprint call) :=
  issueTokens_issues issues issues trivial trivial fun _ _ => issues

private theorem createAccount_issues (creates : call.createsUsers = true) (email password name : String) (role : Role) :
    (AuthService.createAccount email password name role).Issues (Footprint call) := by
  refine ⟨creates,fun hashed => ?_⟩
  cases hashed with
  | none => trivial
  | some passwordHash =>
    refine ⟨trivial,fun id => ⟨creates,fun created => ?_⟩⟩
    cases created <;> trivial

private theorem register_issues (creates : call.createsUsers = true) (email password name : String) (role : Role) :
    (AuthService.register email password name role).Issues (Footprint call) := by
  refine ⟨trivial,fun found => ?_⟩
  cases found with
  | error error => exact createAccount_issues creates email password name role
  | ok user => trivial

private theorem seedAdmins_issues (creates : call.createsUsers = true) (created : Nat) (admins : List AdminSeed) :
    (AuthService.seedAdmins created admins).Issues (Footprint call) := by
  induction admins generalizing created with
  | nil => trivial
  | cons seed rest ih =>
    refine Program.Issues.bind ⟨trivial,fun found => ?_⟩ fun outcome => ?_
    · cases found with
      | ok user => trivial
      | error error =>
        refine (createAccount_issues creates _ _ _ _).bind fun account => ?_
        cases account <;> trivial
    · rcases outcome with error | _ | _
      · trivial
      · exact ih created
      · exact ih (created + 1)

theorem program_issues (settings : Settings) (call : Call) : (program settings call).Issues (Footprint call) := by
  cases call with
  | register email password name role => exact .map _ (register_issues rfl email password name role)
  | registerOrganizer email password name => exact .map _ (register_issues rfl email password name .eo)
  | seedAdmins admins => exact .map _ (seedAdmins_issues rfl 0 admins)
  | login email password =>
    refine .map _ ⟨trivial,fun found => ?_⟩
    rcases found with error | user
    · trivial
    simp only [done_bind]
    split
    · exact issues_tokens rfl user
    · trivial
  | refreshToken raw =>
    refine .map _ ⟨trivial,fun found => ?_⟩
    rcases found with error | token
    · trivial
    refine ⟨trivial,fun now => ?_⟩
    simp only [done_bind]
    split
    · trivial
    refine ⟨trivial,fun owner => ?_⟩
    rcases owner with error | user
    · trivial
    refine ⟨rfl,fun deleted => ?_⟩
    rcases deleted with error | _
    · trivial
    · exact issues_tokens rfl user
  | getMe userID =>
    refine .map _ ⟨trivial,fun found => ?_⟩
    cases found <;> trivial
  | deleteUser userID =>
    refine .map _ ⟨trivial,fun deleted => ?_⟩
    cases deleted <;> trivial
  | wait duration => exact ⟨trivial,fun _ => trivial⟩

end Calls

end Ticketbus.Auth
