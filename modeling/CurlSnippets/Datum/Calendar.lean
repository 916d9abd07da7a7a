import CurlSnippets.Number.Numeral

/-!
# Dates and times of day

Calendar values and their two texts: the one that is exchanged, and the one that shows how the value
is made.
-/

namespace CurlSnippets

/-- A day. -/
structure Date where
  year : Nat
  month : Nat
  day : Nat
deriving DecidableEq, Repr

/-- A time of day. -/
structure TimeOfDay where
  hour : Nat
  minute : Nat
  second : Nat
  microsecond : Nat
deriving DecidableEq, Repr

/-- A day and a time, with the distance from universal time in seconds if it is known. -/
structure DateTime where
  date : Date
  time : TimeOfDay
  offset : Option Int
deriving DecidableEq, Repr

namespace Calendar

/-- A number with zeros in front up to a width. -/
def padded (width n : Nat) : Text := Text.padLeft width '0' (natText n)

end Calendar

open Calendar

/-- Year, month and day. -/
def Date.text (d : Date) : Text :=
  padded 4 d.year ++ "-" ++ padded 2 d.month ++ "-" ++ padded 2 d.day

/-- Hours, minutes and seconds, and the microseconds if there are any. -/
def TimeOfDay.text (t : TimeOfDay) : Text :=
  padded 2 t.hour ++ ":" ++ padded 2 t.minute ++ ":" ++ padded 2 t.second
    ++ (if t.microsecond = 0 then [] else '.' :: padded 6 t.microsecond)

/-- A distance from universal time: sign, hours and minutes, and the seconds if there are any. -/
def Calendar.offsetText (seconds : Int) : Text :=
  let n := seconds.natAbs
  (if seconds < 0 then '-' else '+') :: padded 2 (n / 3600) ++ ":" ++ padded 2 (n / 60 % 60)
    ++ (if n % 60 = 0 then [] else ':' :: padded 2 (n % 60))

/-- A day and a time with a separator between them. -/
def DateTime.textWith (separator : Char) (d : DateTime) : Text :=
  d.date.text ++ [separator] ++ d.time.text
    ++ (match d.offset with
      | some seconds => offsetText seconds
      | none => [])

namespace Calendar

/-- The call that makes a value, with its arguments. -/
def call (name : Text) (arguments : List Text) : Text :=
  name ++ "(" ++ Text.join ", " arguments ++ ")"

/-- The arguments for a time of day; seconds and microseconds that are zero are left out at the
end. -/
def timeArguments (t : TimeOfDay) : List Text :=
  [natText t.hour, natText t.minute]
    ++ (if t.second = 0 && t.microsecond = 0 then [] else [natText t.second])
    ++ (if t.microsecond = 0 then [] else [natText t.microsecond])

/-- A span of time in days and seconds. -/
def spanShown (seconds : Int) : Text :=
  let days := Int.fdiv seconds 86400
  let rest := Int.fmod seconds 86400
  call "datetime.timedelta" <| List.flatten [
    if days = 0 then [] else ["days=" ++ intText days],
    if rest = 0 then [] else ["seconds=" ++ intText rest]]

/-- A distance from universal time. -/
def offsetShown (seconds : Int) : Text :=
  if seconds = 0 then "datetime.timezone.utc"
  else call "datetime.timezone" [spanShown seconds]

end Calendar

/-- The call that makes a day. -/
def Date.shown (d : Date) : Text :=
  call "datetime.date" [natText d.year, natText d.month, natText d.day]

/-- The call that makes a time of day. -/
def TimeOfDay.shown (t : TimeOfDay) : Text := call "datetime.time" (timeArguments t)

/-- The call that makes a day and a time. -/
def DateTime.shown (d : DateTime) : Text :=
  call "datetime.datetime" <| List.flatten [
    [natText d.date.year, natText d.date.month, natText d.date.day],
    timeArguments d.time,
    match d.offset with
    | some seconds => ["tzinfo=" ++ offsetShown seconds]
    | none => []]

end CurlSnippets
