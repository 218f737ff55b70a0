import CrsText.Conversion
import CrsText.Proofs.Conversion.Grammar
import CrsText.Proofs.Conversion.Lines
import CrsText.Proofs.Conversion.Reading
import CrsText.Proofs.Conversion.Success
import CrsText.Proofs.Conversion.OlderPart
import CrsText.Proofs.Conversion.Brackets
import CrsText.Proofs.Definition.Acceptance
import CrsText.Proofs.Conversion.Embedding
import CrsText.Proofs.Conversion.Collapsed
import CrsText.Proofs.Conversion.Spelling
import CrsText.Proofs.Conversion.Editing
import CrsText.Proofs.Conversion.Discipline
import CrsText.Proofs.Conversion.Unshadowed
import CrsText.Proofs.Conversion.Log
import CrsText.Proofs.Conversion.Losses
import CrsText.Proofs.Number.Recovered
import CrsText.Proofs.Number.Copied
import CrsText.Proofs.Conversion.Metadata
import CrsText.Proofs.Conversion.Decimal
import CrsText.Proofs.Conversion.Mismatch
import CrsText.Proofs.Conversion.EnsembleName
import CrsText.Proofs.Conversion.Transcription
import CrsText.Proofs.Conversion.TypeName
import CrsText.Proofs.Conversion.Codes
import CrsText.Proofs.Conversion.Factor
import CrsText.Proofs.Conversion.Meridian
