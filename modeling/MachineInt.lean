import MachineInt.Arithmetic
import MachineInt.Contract.Content
import MachineInt.Pattern.Comparison
import MachineInt.Pattern.Reversal
import MachineInt.Setting
import MachineInt.Subword
import MachineInt.Json.Writer
import MachineInt.Word.Reading
import MachineInt.Proofs.Division
import MachineInt.Proofs.Numeral.InPlace
import MachineInt.Proofs.Numeral.Language
import MachineInt.Proofs.Numeral.Accumulation
import MachineInt.Proofs.Numeral.Answer
import MachineInt.Proofs.Numeral.Signed
import MachineInt.Proofs.Numeral.Unsigned
import MachineInt.Proofs.Numeral.WordSize
import MachineInt.Proofs.Numeral.Canonical
import MachineInt.Proofs.Numeral.RoundTrip
import MachineInt.Proofs.Numeral.NormalForm
import MachineInt.Proofs.Numeral.Offence
import MachineInt.Proofs.Numeral.Part
import MachineInt.Proofs.Numeral.Marked
import MachineInt.Proofs.Numeral.Length
import MachineInt.Proofs.Numeral.InCells
import MachineInt.Proofs.Numeral.Decimal
import MachineInt.Proofs.Numeral.PowerOfTwo
import MachineInt.Proofs.Numeral.Uniqueness
import MachineInt.Proofs.Numeral.Subword
import MachineInt.Proofs.Numeral.OnIntegers
import MachineInt.Proofs.Pattern.Integers
import MachineInt.Proofs.Pattern.OnIntegers
import MachineInt.Proofs.Pattern.Places
import MachineInt.Proofs.Pattern.LeadingZeros
import MachineInt.Proofs.Pattern.TrailingZeros
import MachineInt.Proofs.Pattern.Ends
import MachineInt.Proofs.Pattern.Ones
import MachineInt.Proofs.Pattern.Congruence
import MachineInt.Proofs.Setting
import MachineInt.Proofs.Word.Making
import MachineInt.Proofs.Word.Reading
import MachineInt.Proofs.Word.RoundTrip
import MachineInt.Proofs.Json.Number
import MachineInt.Proofs.Json.Numeral
import MachineInt.Proofs.Json.Quoted
import MachineInt.Proofs.Json.RoundTrip
import MachineInt.Proofs.Schema.Acceptance
import MachineInt.Proofs.Contract.Acceptance
import MachineInt.Proofs.Contract.Assessment
import MachineInt.Proofs.Contract.Loader
import MachineInt.Proofs.Contract.Report
import MachineInt.Proofs.Contract.Run
import MachineInt.Proofs.Contract.Site
import MachineInt.Proofs.Contract.Word
import MachineInt.Proofs.Word.Data
import MachineInt.Proofs.Word.Origin
import MachineInt.Proofs.Word.Validation
import MachineInt.Proofs.Pattern.Reversal
import MachineInt.Proofs.Pattern.Mirror
import MachineInt.Proofs.Pattern.Comparison
import MachineInt.Proofs.Pattern.Division
import MachineInt.Proofs.Word.Bits
import MachineInt.Proofs.Word.Outcome
import MachineInt.Proofs.Word.Passage
import MachineInt.Proofs.Numeral.Short
import MachineInt.Proofs.Wrapping
import MachineInt.Proofs.Numeral.Positional
