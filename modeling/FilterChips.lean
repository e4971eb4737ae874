import FilterChips.Launch
import FilterChips.Main
import FilterChips.Proofs.Collection.Conservation
import FilterChips.Proofs.Drag.Preview
import FilterChips.Proofs.App.Transaction
import FilterChips.Proofs.Expression.Grammar
import FilterChips.Proofs.Expression.Diagnosis
import FilterChips.Proofs.Expression.Formula
import FilterChips.Proofs.Drag.Path
import FilterChips.Proofs.Interaction.Loop
import FilterChips.Proofs.Interaction.Press
import FilterChips.Proofs.Interaction.Resolution
import FilterChips.Proofs.Interaction.Release
import FilterChips.Proofs.View.Room
import FilterChips.Proofs.Drag.Hover
import FilterChips.Proofs.App.Effects
import FilterChips.Proofs.App.Strict
import FilterChips.Proofs.Interaction.Kinds
import FilterChips.Proofs.Drag.Captures
import FilterChips.Proofs.Drag.Counting
import FilterChips.Proofs.App.Range
import FilterChips.Proofs.App.Highlight
import FilterChips.Proofs.Screen.Arrangement
import FilterChips.Proofs.Screen.FewestRows
import FilterChips.Proofs.View.Growth
import FilterChips.Proofs.View.Front
import FilterChips.Proofs.View.Limits
import FilterChips.Proofs.Screen.Label
import FilterChips.Proofs.Collection.Query
import FilterChips.Proofs.Collection.Construction
import FilterChips.Proofs.Collection.PoolOrder
import FilterChips.Proofs.Collection.Inverse
import FilterChips.Proofs.Collection.Clearing
import FilterChips.Proofs.Drag.Partition
