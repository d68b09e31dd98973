/-!
# Why a pattern is refused
-/

namespace OclScan

/-- What is wrong with the text of a pattern. -/
inductive PatternFault
  /-- A group is opened and not closed. -/
  | unclosedGroup
  /-- A group is closed and was not opened. -/
  | unopenedGroup
  /-- The opening of a group ends early or names no group. -/
  | badGroupOpening
  /-- Two groups have one name. -/
  | duplicateGroupName
  /-- A mode letter is unknown, repeated or missing. -/
  | badMode
  /-- Look-ahead or look-behind. -/
  | lookAround
  /-- A class is opened and not closed. -/
  | unclosedClass
  /-- A range ends before it starts. -/
  | reversedRange
  /-- The end of a range is not a character. -/
  | badRangeEnd
  /-- An escape in a class stands for no character. -/
  | badClassEscape
  /-- The text ends within an escape. -/
  | unfinishedEscape
  /-- An escape has no meaning. -/
  | unknownEscape
  /-- A reference to what a group has read. -/
  | backReference
  /-- No property has the name. -/
  | unknownProperty
  /-- No condition on the edges of words has the name, or its name is not closed. -/
  | unknownWordEdge
  /-- What Unicode is needed for where it is switched off. -/
  | beyondAscii
  /-- A repetition has nothing before it. -/
  | nothingToRepeat
  /-- The count of a repetition is missing, unfinished, too large or reversed. -/
  | badCount
  /-- Groups, classes and repetitions stand in one another too deeply. -/
  | tooDeep
  /-- The pattern has too many places once its repetitions are written out. -/
  | tooLarge
  deriving DecidableEq, Repr

end OclScan
