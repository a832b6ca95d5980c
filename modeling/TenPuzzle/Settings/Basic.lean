/-!
Settings of the game: the run lengths on offer, how long an abandoned game is kept, and how many
players the leaderboard shows.
-/

namespace TenPuzzle

structure Settings where
  modes : List Int
  defaultMode : Int
  /-- Seconds until an abandoned game is dropped. -/
  lifetime : Int
  leaderboardSize : Int
  deriving DecidableEq, Repr

def Settings.standard : Settings where
  modes := [5, 10, 20]
  defaultMode := 5
  lifetime := 3600
  leaderboardSize := 10

end TenPuzzle
