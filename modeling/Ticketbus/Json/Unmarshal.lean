import Mathlib.Data.List.Nodup
import Mathlib.Logic.Function.Basic

/-! JSON values, and what `json.Unmarshal` stores of them in a struct. A member goes to the
field that its key names, or else to one whose name differs in case only; members without
a field are skipped, `null` leaves a field as it was, and a later member overwrites an
earlier one. Any mismatch of types makes the whole an error. -/
namespace Ticketbus.Json

inductive Value where
  | null
  | bool (value : Bool)
  | number (value : Int)
  | string (text : String)
  | array (items : List Value)
  | object (members : List (String × Value))

/-- What a struct, or a field of it, is declared as. -/
inductive Shape where
  | text
  | instant
  | record (fields : List (String × Shape))

/-- The text in each field, by the names on the way to it; "" where nothing was stored. -/
abbrev Stored := List String → String

def Stored.zero : Stored := fun _ => ""

/-- Two letters outside ASCII, the long s and the KELVIN SIGN, fold to letters inside. -/
def foldChar (c : Char) : Char :=
  if c = 'ſ' then 's' else if c = Char.ofNat 0x212a then 'k' else c.toLower

def foldName (name : String) : List Char := name.toList.map foldChar

def fieldFor (fields : List (String × Shape)) (key : String) : Option (String × Shape) :=
  match fields.find? fun field => field.1 = key with
  | some field => some field
  | none => fields.find? fun field => foldName field.1 = foldName key

section Read
variable (isInstant : String → Bool)

mutual

def Value.read : Value → Shape → List String → Stored → Option Stored
  | .null,_,_,stored => some stored
  | .string text,.text,path,stored => some (Function.update stored path text)
  | .string text,.instant,path,stored => if isInstant text then some (Function.update stored path text) else none
  | .object members,.record fields,path,stored => readMembers members fields path stored
  | _,_,_,_ => none

def readMembers : List (String × Value) → List (String × Shape) → List String → Stored → Option Stored
  | [],_,_,stored => some stored
  | (key,value) :: rest,fields,path,stored =>
    match fieldFor fields key with
    | none => readMembers rest fields path stored
    | some (name,shape) =>
      (value.read shape (path ++ [name]) stored).bind (readMembers rest fields path)

end

/-- `json.Unmarshal` into a struct that is still zero. -/
def unmarshal (shape : Shape) (value : Value) : Option Stored := value.read isInstant shape [] .zero

end Read

/-- A member that carries a text which its field accepts. -/
def Fits (isInstant : String → Bool) (fields : List (String × Shape)) (member : String × Value) : Prop :=
  ∃ text shape, member.2 = .string text ∧ fields.find? (fun field => field.1 = member.1) = some (member.1,shape) ∧
    (shape = .text ∨ shape = .instant ∧ isInstant text = true)

section Texts
variable {isInstant : String → Bool} {fields : List (String × Shape)} {members : List (String × Value)}

theorem Fits.read {member : String × Value} (fits : Fits isInstant fields member) :
    ∃ text, member.2 = .string text ∧ ∀ (rest : List (String × Value)) (path : List String) (stored : Stored),
      readMembers isInstant (member :: rest) fields path stored =
        readMembers isInstant rest fields path (Function.update stored (path ++ [member.1]) text) := by
  obtain ⟨key,value⟩ := member
  obtain ⟨text,shape,rfl,found,accepted⟩ := fits
  refine ⟨text,rfl,fun rest path stored => ?_⟩
  have field : fieldFor fields key = some (key,shape) := by
    unfold fieldFor
    rw [found]
  rcases accepted with rfl | ⟨rfl,valid⟩
  · simp only [readMembers,field,Value.read,Option.bind_some]
  · simp only [readMembers,field,Value.read,valid,if_true,Option.bind_some]

theorem readMembers_texts (fit : ∀ member ∈ members, Fits isInstant fields member)
    (distinct : (members.map Prod.fst).Nodup) (path : List String) (stored : Stored) :
    ∃ after, readMembers isInstant members fields path stored = some after ∧
      (∀ key text, (key,.string text) ∈ members → after (path ++ [key]) = text) ∧
      ∀ other, (∀ member ∈ members, other ≠ path ++ [member.1]) → after other = stored other := by
  induction members generalizing stored with
  | nil =>
    refine ⟨stored,by simp only [readMembers],fun _ _ member => ?_,fun _ _ => rfl⟩
    cases member
  | cons member rest ih =>
    obtain ⟨text,isText,reads⟩ := (fit member List.mem_cons_self).read
    obtain ⟨fresh,others⟩ := List.nodup_cons.mp distinct
    obtain ⟨after,isAfter,kept,untouched⟩ := ih (fun other inside => fit other (List.mem_cons_of_mem _ inside)) others
      (Function.update stored (path ++ [member.1]) text)
    refine ⟨after,(reads rest path stored).trans isAfter,fun key content inside => ?_,fun other outside => ?_⟩
    · rcases List.mem_cons.mp inside with same | later
      · -- no later member has this key, so the text stays
        rw [← same] at isText fresh untouched
        cases isText
        refine (untouched _ fun other member same => fresh ?_).trans (Function.update_self ..)
        have keys : other.1 = key := by simpa using same.symm
        exact List.mem_map.mpr ⟨other,member,keys⟩
      · exact kept key content later
    · refine (untouched other fun later inside => outside later (List.mem_cons_of_mem _ inside)).trans ?_
      exact Function.update_of_ne (outside member List.mem_cons_self) ..

theorem unmarshal_texts (fit : ∀ member ∈ members, Fits isInstant fields member)
    (distinct : (members.map Prod.fst).Nodup) :
    ∃ stored, unmarshal isInstant (.record fields) (.object members) = some stored ∧
      ∀ key text, (key,.string text) ∈ members → stored [key] = text := by
  obtain ⟨stored,isStored,kept,_⟩ := readMembers_texts fit distinct [] .zero
  exact ⟨stored,by simpa only [unmarshal,Value.read] using isStored,kept⟩

/-- `json.Marshal` of a struct of texts. -/
def marshal (fields : List (String × Shape)) (texts : List String) : List (String × Value) :=
  List.zipWith (fun field text => (field.1,.string text)) fields texts

theorem marshal_keys (texts : List String) : ((marshal fields texts).map Prod.fst).Sublist (fields.map Prod.fst) := by
  induction fields generalizing texts with
  | nil => exact .slnil
  | cons field rest ih =>
    cases texts with
    | nil => exact List.nil_sublist _
    | cons text texts => exact (ih texts).cons_cons field.1

theorem find_field (distinct : (fields.map Prod.fst).Nodup) {field : String × Shape} (member : field ∈ fields) :
    fields.find? (fun other => other.1 = field.1) = some field := by
  rw [List.find?_eq_some_iff_getElem]
  obtain ⟨position,bound,is⟩ := List.mem_iff_getElem.mp member
  refine ⟨by simp,position,bound,is,fun earlier before => ?_⟩
  have small : earlier < (fields.map Prod.fst).length := by
    rw [List.length_map]
    omega
  have large : position < (fields.map Prod.fst).length := by rwa [List.length_map]
  have apart : (fields.map Prod.fst)[earlier] ≠ (fields.map Prod.fst)[position] :=
    fun same => absurd (distinct.getElem_inj_iff.mp same) (by omega)
  simpa [is] using apart

theorem marshal_fits (distinct : (fields.map Prod.fst).Nodup) {texts : List String}
    (valid : ∀ pair ∈ fields.zip texts, pair.1.2 = .text ∨ pair.1.2 = .instant ∧ isInstant pair.2 = true) :
    ∀ member ∈ marshal fields texts, Fits isInstant fields member := by
  intro member inside
  unfold marshal at inside
  rw [← List.map_uncurry_zip_eq_zipWith] at inside
  obtain ⟨⟨field,text⟩,paired,rfl⟩ := List.mem_map.mp inside
  exact ⟨text,field.2,rfl,find_field distinct (List.of_mem_zip paired).1,valid _ paired⟩

theorem unmarshal_marshal (distinct : (fields.map Prod.fst).Nodup) {texts : List String}
    (valid : ∀ pair ∈ fields.zip texts, pair.1.2 = .text ∨ pair.1.2 = .instant ∧ isInstant pair.2 = true)
    (order : members.Perm (marshal fields texts)) :
    ∃ stored, unmarshal isInstant (.record fields) (.object members) = some stored ∧
      ∀ pair ∈ fields.zip texts, stored [pair.1.1] = pair.2 := by
  have keys : (members.map Prod.fst).Nodup := by
    rw [(order.map Prod.fst).nodup_iff]
    exact distinct.sublist (marshal_keys texts)
  obtain ⟨stored,isStored,reads⟩ := unmarshal_texts
    (fun member inside => marshal_fits distinct valid member (order.mem_iff.mp inside)) keys
  refine ⟨stored,isStored,fun pair paired => reads pair.1.1 pair.2 (order.mem_iff.mpr ?_)⟩
  unfold marshal
  rw [← List.map_uncurry_zip_eq_zipWith]
  exact List.mem_map.mpr ⟨pair,paired,rfl⟩

end Texts

end Ticketbus.Json
