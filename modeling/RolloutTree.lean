import RolloutTree.Api.Discovery
import RolloutTree.Api.Failure
import RolloutTree.Api.Path
import RolloutTree.Api.Phrase
import RolloutTree.Api.Server
import RolloutTree.Api.Version
import RolloutTree.Cluster.Context
import RolloutTree.Cluster.Delivery
import RolloutTree.Cluster.Metadata
import RolloutTree.Cluster.Resource
import RolloutTree.Cluster.Snapshot
import RolloutTree.Cluster.Workload
import RolloutTree.Command.Arguments
import RolloutTree.Command.Recording
import RolloutTree.Command.Session
import RolloutTree.Completion.Candidates
import RolloutTree.Completion.Directive
import RolloutTree.Completion.Listing
import RolloutTree.Fetch
import RolloutTree.Json.Decode
import RolloutTree.Json.Reader
import RolloutTree.Json.Value
import RolloutTree.Json.Writer
import RolloutTree.JsonPath.Query
import RolloutTree.JsonPath.Reader
import RolloutTree.JsonPath.Syntax
import RolloutTree.Main
import RolloutTree.Proofs.Api.Requests
import RolloutTree.Proofs.Api.Resolution
import RolloutTree.Proofs.Cluster.Delivery
import RolloutTree.Proofs.Cluster.Ownership
import RolloutTree.Proofs.Completion.Arguments
import RolloutTree.Proofs.Completion.Candidates
import RolloutTree.Proofs.Completion.Listing
import RolloutTree.Proofs.Fetch
import RolloutTree.Proofs.Fetch.Paths
import RolloutTree.Proofs.Json.Growth
import RolloutTree.Proofs.Style
import RolloutTree.Proofs.Table
import RolloutTree.Proofs.Table.Shown
import RolloutTree.Proofs.Text.Escape
import RolloutTree.Proofs.Text.Strip
import RolloutTree.Proofs.Text.Width
import RolloutTree.Proofs.Time.Age
import RolloutTree.Proofs.Tree.Branches
import RolloutTree.Proofs.Tree.Building
import RolloutTree.Proofs.Tree.Children
import RolloutTree.Proofs.Tree.Color
import RolloutTree.Proofs.Tree.Counters
import RolloutTree.Proofs.Tree.Places
import RolloutTree.Proofs.Tree.Pod
import RolloutTree.Proofs.Tree.Preorder
import RolloutTree.Proofs.Tree.Reading
import RolloutTree.Proofs.Tree.Relisting
import RolloutTree.Proofs.Tree.Tags
import RolloutTree.Proofs.Watch.Cadence
import RolloutTree.Proofs.Watch.Endings
import RolloutTree.Proofs.Watch.Frames
import RolloutTree.Proofs.Watch.Step
import RolloutTree.Proofs.Watch.Stopping
import RolloutTree.Proofs.Watch.Truncation
import RolloutTree.Proofs.Watch.Wait
import RolloutTree.Proofs.Word
import RolloutTree.Style
import RolloutTree.Table
import RolloutTree.Text.Blank
import RolloutTree.Text.Escape
import RolloutTree.Text.Extend
import RolloutTree.Text.Natural
import RolloutTree.Text.Quoted
import RolloutTree.Text.Ranges
import RolloutTree.Text.Split
import RolloutTree.Text.Unprintable
import RolloutTree.Text.Utf8
import RolloutTree.Text.Width
import RolloutTree.Text.Width.Tables
import RolloutTree.Time.Age
import RolloutTree.Time.Instant
import RolloutTree.Time.Reader
import RolloutTree.Tree.Branch
import RolloutTree.Tree.Experiment
import RolloutTree.Tree.Frame
import RolloutTree.Tree.Job
import RolloutTree.Tree.Node
import RolloutTree.Tree.Pod
import RolloutTree.Tree.ReplicaSet
import RolloutTree.Tree.Rollout
import RolloutTree.Tree.Tags
import RolloutTree.Watch.Run
import RolloutTree.Watch.Wait
import RolloutTree.Word
