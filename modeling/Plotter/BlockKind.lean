/-! The two kinds of blocks and the lines that mark them. -/

namespace Plotter

/-- A kind of block. -/
inductive BlockKind where
  /-- A block that runs as long as its condition holds. -/
  | loop
  /-- A block that runs once if its condition holds. -/
  | branch
  deriving DecidableEq, Repr

namespace BlockKind

/-- The word that opens a block. -/
def keyword : BlockKind → String
  -- The condition follows behind the word and a blank.
  | loop => "while"
  | branch => "if"

/-- The word that closes a block. -/
def endKeyword : BlockKind → String
  -- Each kind has an end of its own, so that the two cannot be mixed up.
  | loop => "endwhile"
  | branch => "endif"

end BlockKind

/-- A line that opens or closes a block. -/
inductive Marker where
  /-- The first line of a block. -/
  | opening (kind : BlockKind)
  /-- The last line of a block. -/
  | closing (kind : BlockKind)
  deriving DecidableEq, Repr

/-- What a marker is called in messages. -/
def Marker.name : Marker → String
  -- An opening marker is named without its condition.
  | opening kind => kind.keyword ++ "-start"
  | closing kind => kind.endKeyword

end Plotter
