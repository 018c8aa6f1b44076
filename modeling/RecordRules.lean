import RecordRules.Declaration.Basic
import RecordRules.Engine.Validate
import RecordRules.Proofs.Annotation.Joining
import RecordRules.Proofs.Annotation.Scanning
import RecordRules.Proofs.Annotation.Unquoting
import RecordRules.Proofs.Annotation.Writing
import RecordRules.Proofs.Declaration.Alignment
import RecordRules.Proofs.Engine.Backtracking
import RecordRules.Proofs.Engine.Bounds
import RecordRules.Proofs.Engine.Delegation
import RecordRules.Proofs.Engine.FieldOrder
import RecordRules.Proofs.Engine.Formats
import RecordRules.Proofs.Engine.Keeping
import RecordRules.Proofs.Engine.Once
import RecordRules.Proofs.Engine.Outermost
import RecordRules.Proofs.Engine.Ownership
import RecordRules.Proofs.Engine.Places
import RecordRules.Proofs.Engine.Powers
import RecordRules.Proofs.Engine.Refusing
import RecordRules.Proofs.Engine.Sparing
import RecordRules.Proofs.Failure.Flattening
import RecordRules.Proofs.Failure.Prefixing
import RecordRules.Proofs.Rule.Numbers
import RecordRules.Proofs.Rule.Parse.Blame
import RecordRules.Proofs.Rule.Progress
import RecordRules.Proofs.Rule.Replay.Decoding
import RecordRules.Proofs.Rule.Slicing
import RecordRules.Proofs.Rulebook.Building
import RecordRules.Proofs.Rulebook.Evaluation
import RecordRules.Proofs.Rulebook.Rebuilding
import RecordRules.Proofs.Rulebook.Recasting
import RecordRules.Proofs.Rulebook.Regrouping
import RecordRules.Proofs.Rulebook.Requoting
import RecordRules.Proofs.Rulebook.Substituting
import RecordRules.Proofs.Value.Coercion
import RecordRules.Proofs.Value.Copying
import RecordRules.Proofs.Value.Locating
import RecordRules.Proofs.Value.Retracing
import RecordRules.Rule.Event
import RecordRules.Value.Json.Read
import RecordRules.Value.Order
