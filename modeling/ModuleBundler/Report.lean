import ModuleBundler.Decimal.Fixed

/-!
# Sizes and durations for people to read

Sizes in the largest unit that keeps them at one or above, up to gigabytes; durations in
milliseconds, seconds, or minutes and seconds.
-/

namespace ModuleBundler.Report

/-- The unit for a number of bytes, counting from bytes on, and the value in this unit. -/
def scale (value : Float) : List String → Option (Float × String)
  | [] => none
  | [unit] => some (value, unit)
  | unit :: units => if value < 1024 then some (value, unit) else scale (value / 1024) units

/-- Bytes are counted exactly, larger units are given with two places. -/
def size (bytes : Nat) : String :=
  if bytes < 1024 then toString bytes ++ " B"
  else match scale (Float.ofNat bytes / 1024) ["KB", "MB", "GB"] with
    | some (value, unit) => Decimal.twoPlaces value ++ " " ++ unit
    | none => ""

/-- A time span of whole seconds and a fraction of a second in nanoseconds. -/
structure Duration where
  seconds : Nat
  nanoseconds : Nat

/-- Nanoseconds beyond a second count as seconds. -/
def Duration.ofParts (seconds nanoseconds : Nat) : Duration :=
  ⟨seconds + nanoseconds / 1000000000, nanoseconds % 1000000000⟩

def Duration.milliseconds (d : Duration) : Nat :=
  d.seconds * 1000 + d.nanoseconds / 1000000

def duration (d : Duration) : String :=
  if d.milliseconds < 1000 then toString d.milliseconds ++ "ms"
  else if d.milliseconds < 60000 then
    Decimal.twoPlaces (Float.ofNat d.seconds + Float.ofNat d.nanoseconds / 1000000000) ++ "s"
  else toString (d.seconds / 60) ++ "m " ++ toString (d.seconds % 60) ++ "s"

end ModuleBundler.Report
