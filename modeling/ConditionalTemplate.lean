import ConditionalTemplate.Proofs.Condition.IntegerLiteral
import ConditionalTemplate.Proofs.Condition.NumberToken
import ConditionalTemplate.Proofs.Json.NumberValue
import ConditionalTemplate.Proofs.Json.Rearrangement
import ConditionalTemplate.Proofs.Normalization.NormalForm
import ConditionalTemplate.Proofs.Normalization.Replacement
import ConditionalTemplate.Proofs.Rendering.Fault
import ConditionalTemplate.Proofs.Rendering.Observation
import ConditionalTemplate.Proofs.Rendering.Origin
import ConditionalTemplate.Proofs.Rendering.Visibility
import ConditionalTemplate.Proofs.Settings.RoundTrip
import ConditionalTemplate.Proofs.Template.Cover
import ConditionalTemplate.Proofs.Template.LetterCase
import ConditionalTemplate.Proofs.Template.Locality
import ConditionalTemplate.Proofs.Template.Passes
import ConditionalTemplate.Proofs.Template.Printing
import ConditionalTemplate.Proofs.Value.Coercion
import ConditionalTemplate.Settings.Reader
import ConditionalTemplate.Settings.Writer
