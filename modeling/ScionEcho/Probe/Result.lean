import ScionEcho.Numeral.Fixed
import ScionEcho.Probe.Statistics

/-!
# Results of a measurement

The round trip samples of a finished run in nanoseconds, and what is derived from them. An average
is rounded once from the exact quotient; the latency is half of the round trip, which assumes that
both directions take equally long.
-/

namespace ScionEcho

open Statistics

/-- The samples of a finished run, and the number of probes that it took. -/
structure Measurement where
  samples : List Int
  attempts : Int
  deriving DecidableEq, Repr

/-- The spread of the samples, in milliseconds. -/
structure Summary where
  minMs : Float
  maxMs : Float
  meanMs : Float
  jitterMs : Float

def nsPerMs : Float := 1e6

/-- A time in nanoseconds, given in milliseconds. -/
def millis (ns : Int) : Except NumberError Float := do return (← toFloat ns) / nsPerMs

namespace Measurement

def count (m : Measurement) : Nat := m.samples.length

def totalNs (m : Measurement) : Int := m.samples.foldr (· + ·) 0

def averageRttNs (m : Measurement) : Except NumberError Float := quotient m.totalNs m.count

def averageLatencyNs (m : Measurement) : Except NumberError Float := do
  return (← m.averageRttNs) / 2

def averageRttMs (m : Measurement) : Except NumberError Float := do
  return (← m.averageRttNs) / nsPerMs

def averageLatencyMs (m : Measurement) : Except NumberError Float := do
  return (← m.averageLatencyNs) / nsPerMs

/-- The spread of the samples. Every sample is converted before anything is computed. -/
def summary (m : Measurement) : Except NumberError Summary := do
  match ← m.samples.mapM millis with
  | [] => throw .noMinimum
  | x :: xs =>
    return {
      minMs := minimum x xs
      maxMs := maximum x xs
      meanMs := mean (x :: xs)
      jitterMs := deviation (x :: xs) }

/-- The report of a measurement between two addresses, without a line end. -/
def report (source destination : String) (m : Measurement) : Except NumberError String := do
  let rtt ← m.averageRttMs
  let latency ← m.averageLatencyMs
  return s!"Source: {source}\nDestination: {destination}\nTime estimates:\n" ++
    s!"\tRTT - {Binary64.fixed 3 rtt}ms\n\tLatency - {Binary64.fixed 3 latency}ms"

end Measurement

end ScionEcho
