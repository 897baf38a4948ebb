/-!
# The calendar

The lengths of the months, by which dates in documents are checked.
-/

namespace SchemaDrift.Document

def isLeapYear (year : Nat) : Bool := year % 4 = 0 && (year % 100 != 0 || year % 400 = 0)

def daysIn (year month : Nat) : Nat :=
  if month = 2 then if isLeapYear year then 29 else 28
  else if month ∈ [4, 6, 9, 11] then 30
  else 31

end SchemaDrift.Document
