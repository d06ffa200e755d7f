import Gatehouse.Time.Timestamp
/-!
# Dates in message headers

An instant is written as day of the week, day, month, year and time of day in Greenwich.
-/

namespace Gatehouse.MailDate

/-- The days of the week, from the one on which the calendar's first day fell. -/
def weekdays : List String := ["Thu", "Fri", "Sat", "Sun", "Mon", "Tue", "Wed"]

/-- The months. -/
def months : List String :=
  ["Jan", "Feb", "Mar", "Apr", "May", "Jun", "Jul", "Aug", "Sep", "Oct", "Nov", "Dec"]

/-- The text of an instant. -/
def text (instant : Instant) : String :=
  let days := instant.seconds / 86400
  let date := Calendar.ofDays days
  weekdays.getD (days % 7).toNat "" ++ ", " ++ String.ofList (Timestamp.two date.day) ++ " " ++
    months.getD (date.month - 1) "" ++ " " ++
    String.ofList (Timestamp.yearChars date.year) ++ " " ++
    String.ofList (Timestamp.clockChars instant) ++ " GMT"

end Gatehouse.MailDate
