import RedisSubscriber.Reply
import RedisSubscriber.ChannelMap
import RedisSubscriber.State
import RedisSubscriber.Commands
import RedisSubscriber.Receive
import RedisSubscriber.Reconnect
import RedisSubscriber.System
import RedisSubscriber.StepCases
import RedisSubscriber.Stacks
import RedisSubscriber.SubscriberSteps
import RedisSubscriber.Handler
import RedisSubscriber.Properties.Classifier
import RedisSubscriber.Properties.Locking
import RedisSubscriber.Properties.WireSync
import RedisSubscriber.Properties.HandlerExit
import RedisSubscriber.Properties.Progress
import RedisSubscriber.Properties.PingQueue
import RedisSubscriber.Properties.PingMove
import RedisSubscriber.Properties.OneShot
import RedisSubscriber.Properties.Replay
import RedisSubscriber.Properties.Cancel
import RedisSubscriber.Properties.Descriptor
import RedisSubscriber.Properties.Notifications
import RedisSubscriber.Properties.Termination
import RedisSubscriber.Properties.Registry
import RedisSubscriber.Properties.Exclusion
import RedisSubscriber.Properties.PingWire
