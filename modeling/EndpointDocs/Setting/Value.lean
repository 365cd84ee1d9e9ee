import EndpointDocs.Number.Binary64
import EndpointDocs.Number.Numeral
import EndpointDocs.Page.Moment
import EndpointDocs.Text.Quoted

/-!
Values of a configuration, and the two texts of a value: the plain one, which is used where a text
is wanted, and the one that also shows what kind of value it is, which is used inside collections.
A collection may hold itself; the inner occurrence then says how many collections further out the
one it stands for is.
-/
namespace EndpointDocs

/-- A zone: how many minutes it is ahead of universal time, and how it was written. -/
structure Zone where
  minutes : Int
  name : String
  deriving DecidableEq, Repr

/-- The kinds of collections that may hold themselves. -/
inductive CollectionKind where
  | list
  | map
  | orderedMap
  deriving DecidableEq, Repr

inductive Setting where
  | null
  | bool (value : Bool)
  | int (value : Int)
  | float (value : Binary64)
  | text (value : Wide)
  | bytes (value : List UInt8)
  | date (year month day : Nat)
  | moment (value : Moment) (zone : Option Zone)
  | list (items : List Setting)
  /-- A list that serves as a key, or a pair. -/
  | tuple (items : List Setting)
  | set (items : List Setting)
  | map (members : List (Setting × Setting))
  /-- A mapping whose members were given one after another. -/
  | orderedMap (members : List (Setting × Setting))
  /-- The collection that holds this one, so many levels further out, where 0 is the nearest. -/
  | again (levels : Nat) (kind : CollectionKind)
  deriving Repr

namespace Setting

/-- The parts of a moment that are shown: seconds and fractions only where they are not zero. -/
def momentParts (moment : Moment) : List Nat :=
  [moment.year, moment.month, moment.day, moment.hour, moment.minute] ++
    (if moment.second = 0 && moment.microsecond = 0 then [] else [moment.second]) ++
    (if moment.microsecond = 0 then [] else [moment.microsecond])

/-- A span of minutes as it is shown: in whole days, downwards, and the seconds above them. -/
def spanShown (minutes : Int) : String :=
  let days := Int.fdiv minutes 1440
  let seconds := Int.fmod minutes 1440 * 60
  let parts :=
    (if days = 0 then [] else ["days=" ++ toString days]) ++
      (if seconds = 0 then [] else ["seconds=" ++ toString seconds])
  "datetime.timedelta(" ++ (if parts.isEmpty then "0" else ", ".intercalate parts) ++ ")"

def zoneShown (zone : Zone) : String :=
  "datetime.timezone(" ++ spanShown zone.minutes ++ ", " ++ Text.quoted zone.name ++ ")"

/-- How far a zone is ahead of universal time, in hours and minutes. -/
def zoneText (zone : Zone) : String :=
  (if zone.minutes < 0 then "-" else "+") ++ Moment.padded 2 (zone.minutes.natAbs / 60) ++ ":" ++
    Moment.padded 2 (zone.minutes.natAbs % 60)

/-- A collection inside itself as it is shown. -/
def againShown : CollectionKind → String
  | .list => "[...]"
  | .map => "\x7b...\x7d"
  | .orderedMap => "..."

/-- The text of an integer; there is none if it has too many digits. -/
def integerText? (value : Int) : Option String :=
  let text := toString value.natAbs
  if Numeral.maxDigits < text.length then none
  else some (if value < 0 then "-" ++ text else text)

mutual

/-- The text that shows the kind of a value too. There is none if an integer in it has too many
digits to be written. -/
def shown? : Setting → Option String
  | .null => some "None"
  | .bool true => some "True"
  | .bool false => some "False"
  | .int value => integerText? value
  | .float value => some value.text
  | .text value => some (Text.quoted value)
  | .bytes value => some (Text.quotedBytes value)
  | .date year month day =>
    some ("datetime.date(" ++ ", ".intercalate ([year, month, day].map toString) ++ ")")
  | .moment value zone =>
    let parts := (momentParts value).map toString ++
      (zone.toList.map fun zone => "tzinfo=" ++ zoneShown zone)
    some ("datetime.datetime(" ++ ", ".intercalate parts ++ ")")
  | .list items => (shownItems? items).map fun texts => "[" ++ ", ".intercalate texts ++ "]"
  | .tuple items =>
    (shownItems? items).map fun texts =>
      "(" ++ ", ".intercalate texts ++ (if texts.length = 1 then ",)" else ")")
  | .set items =>
    if items.isEmpty then some "set()"
    else (shownItems? items).map fun texts => "\x7b" ++ ", ".intercalate texts ++ "\x7d"
  | .map members =>
    (shownMembers? members).map fun texts =>
      "\x7b" ++ ", ".intercalate (texts.map fun (key, value) => key ++ ": " ++ value) ++ "\x7d"
  | .orderedMap members =>
    if members.isEmpty then some "ordereddict()"
    else
      (shownMembers? members).map fun texts =>
        "ordereddict([" ++
          ", ".intercalate (texts.map fun (key, value) => "(" ++ key ++ ", " ++ value ++ ")") ++
          "])"
  | .again _ kind => some (againShown kind)

def shownItems? : List Setting → Option (List String)
  | [] => some []
  | item :: rest =>
    match shown? item, shownItems? rest with
    | some first, some others => some (first :: others)
    | _, _ => none

def shownMembers? : List (Setting × Setting) → Option (List (String × String))
  | [] => some []
  | (key, value) :: rest =>
    match shown? key, shown? value, shownMembers? rest with
    | some key, some value, some others => some ((key, value) :: others)
    | _, _, _ => none

end

/-- The plain text of a value. There is none if an integer in it has too many digits to be written.
-/
def plain? : Setting → Option Wide
  | .text value => some value
  | .date year month day => some (⟨year, month, day, 0, 0, 0, 0⟩ : Moment).date
  | .moment value zone =>
    some (value.date ++ " " ++ value.clock ++ ((zone.map zoneText).getD ""))
  | value => value.shown?.map Wide.ofString

def kindName : Setting → String
  | .null => "NoneType"
  | .bool _ => "bool"
  | .int _ => "int"
  | .float _ => "float"
  | .text _ => "str"
  | .bytes _ => "bytes"
  | .date _ _ _ => "date"
  | .moment _ _ => "datetime"
  | .list _ | .again _ .list => "list"
  | .tuple _ => "tuple"
  | .set _ => "set"
  | .map _ | .again _ .map => "dict"
  | .orderedMap _ | .again _ .orderedMap => "ordereddict"

/-- The number that a value stands for, as a ratio; truth values count as 0 and 1. -/
def ratio? : Setting → Option (Int × Nat)
  | .bool value => some (if value then 1 else 0, 1)
  | .int value => some (value, 1)
  | .float value => value.ratio?
  | _ => none

/-- Whether a value says nothing: null, false, zero, or empty. -/
def isEmpty (value : Setting) : Bool :=
  match value with
  | .null => true
  | .text value => value.isEmpty
  | .bytes value => value.isEmpty
  | .list items | .tuple items | .set items => items.isEmpty
  | .map members | .orderedMap members => members.isEmpty
  | value => (value.ratio?.map (·.1 == 0)).getD false

/-- Whether two moments are the same: with zones, if they are at one time everywhere. A moment with
a zone is none without one. -/
def sameMoment (a b : Moment) (zone zone' : Option Zone) : Bool :=
  match zone, zone' with
  | none, none => a == b
  | some zone, some zone' =>
    (a.microseconds : Int) - zone.minutes * 60000000 ==
      (b.microseconds : Int) - zone'.minutes * 60000000
  | _, _ => false

mutual

/-- Whether two keys are the same: numbers by their value, others by kind and content. -/
def sameKey : Setting → Setting → Bool
  | .null, .null => true
  | .text a, .text b => a == b
  | .bytes a, .bytes b => a == b
  | .date y m d, .date y' m' d' => y == y' && m == m' && d == d'
  | .moment a zone, .moment b zone' => sameMoment a b zone zone'
  | .tuple as, .tuple bs => sameKeys as bs
  | .float .nan, .float .nan => true
  | .float (.infinite a), .float (.infinite b) => a == b
  | a, b =>
    match a.ratio?, b.ratio? with
    | some (num, den), some (num', den') => num * den' == num' * den
    | _, _ => false

def sameKeys : List Setting → List Setting → Bool
  | [], [] => true
  | a :: as, b :: bs => sameKey a b && sameKeys as bs
  | _, _ => false

end

def get? (members : List (Setting × Setting)) (key : String) : Option Setting :=
  (members.find? fun member =>
    match member.1 with
    | .text name => name == Wide.ofString key
    | _ => false).map (·.2)

/-- Puts a member in the place of the one with its key, or at the end. -/
def putMember (members : List (Setting × Setting)) (key value : Setting) :
    List (Setting × Setting) :=
  if members.any (·.1.sameKey key) then
    members.map fun member => if member.1.sameKey key then (member.1, value) else member
  else members ++ [(key, value)]

mutual

/-- The value with `whole` wherever it says that the collection `levels` further out comes again. -/
def unrolled (whole : Setting) (levels : Nat) : Setting → Setting
  | .again n kind => if n = levels then whole else .again n kind
  | .list items => .list (unrolledItems whole (levels + 1) items)
  | .tuple items => .tuple (unrolledItems whole (levels + 1) items)
  | .set items => .set (unrolledItems whole (levels + 1) items)
  | .map members => .map (unrolledMembers whole (levels + 1) members)
  | .orderedMap members => .orderedMap (unrolledMembers whole (levels + 1) members)
  | value => value

/-- Elements with `whole` wherever they say that it comes again. -/
def unrolledItems (whole : Setting) (levels : Nat) : List Setting → List Setting
  | [] => []
  | item :: rest => unrolled whole levels item :: unrolledItems whole levels rest

def unrolledMembers (whole : Setting) (levels : Nat) :
    List (Setting × Setting) → List (Setting × Setting)
  | [] => []
  | (key, value) :: rest =>
    (unrolled whole levels key, unrolled whole levels value) ::
      unrolledMembers whole levels rest

end

/-- The elements of a list, each of which stands for itself: where it holds the list, it holds the
whole list. -/
def items? (value : Setting) : Option (List Setting) :=
  match value with
  | .list items => some (unrolledItems value 0 items)
  | _ => none

end Setting

end EndpointDocs
